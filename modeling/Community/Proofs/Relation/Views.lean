import Community.Proofs.Cache.Transparency
import Community.Proofs.Page.Partition
import Community.Proofs.Page.Walk
import Community.Proofs.Relation.Kept
import Community.Proofs.Relation.Record

/-!
# The views of a relation agree

A like shows in five places: whether a user likes a target, the likers of the target, the
likes of the user with and without a filter, and the number that the target shows. For
favourites there are the lists of active and of cancelled ones, which are read through the
cache. All of them are about one row:

> `relation_views_agree`: from empty tables and counters at zero, whatever has happened,
> every view of a relation tells the same.

The argument is one for all views. A list is the rows that match (`Table.IsListed.walk`), so
what is counted in it is counted among the rows of the user and the target, and there is one
such row at most (`find_and_count`). The counters come last: they show the number of their
supporters, which is the length of a list.
-/

namespace Community

open Procedure Database

/-- What a procedure answers in a world. -/
def Procedure.Answers {α : Type} (a : Procedure α) (w : World) (x : α) : Prop :=
  (a.perform w).1 = .ok x

/-! ## One row -/

namespace Database

variable {ρ α : Type} [Entity ρ α] {db : Database} {t : Table ρ}

/-- Of the only row that `pick` admits, what is found tells what is counted. -/
theorem find_and_count (ht : db.table ρ = .ok t) (hsound : t.IsSound) {pick : ρ → Bool}
    (hone : (t.rows.filter pick).length ≤ 1) :
    ∃ found : Option α, findFirst pick db = .ok found ∧
      ∀ (inRow : ρ → Bool) (inValue : α → Bool), (∀ r a, Reads r a → inRow r = inValue a) →
        (t.rows.countP fun r => inRow r && pick r) = (found.any inValue).toNat := by
  have hfind : t.rows.find? pick = (t.rows.filter pick).head? := List.head?_filter.symm
  match hrows : t.rows.filter pick, hone with
  | [], _ =>
    refine ⟨none, findFirst_of_none ht (by rw [hfind, hrows]; rfl),
      fun inRow inValue _ => ?_⟩
    rw [← List.countP_filter, hrows]
    rfl
  | [r], _ =>
    have hmem : r ∈ t.rows := List.mem_of_mem_filter (hrows ▸ List.mem_singleton_self r)
    obtain ⟨a, ha⟩ := hsound.readable r hmem
    refine ⟨some a, findFirst_of_some ht (by rw [hfind, hrows]; rfl) ha,
      fun inRow inValue hshows => ?_⟩
    rw [← List.countP_filter, hrows, List.countP_singleton, hshows r a ha, Option.any_some]
    cases inValue a <;> rfl

end Database

namespace Counter

variable {ρ : Type} {counter : Counter} {target : Int} {link : ρ → Link} {pick : ρ → Bool}

/-- The supporters that the links of some rows give are the users of the rows that count. -/
theorem supporters_map (h : ∀ r, counter.counts target (link r) = pick r) {rows : List ρ} :
    counter.supporters target (rows.map link) = (rows.filter pick).map fun r =>
      (link r).userId := by
  rw [supporters, List.filter_map, List.map_map,
    show counter.counts target ∘ link = pick from funext h]
  rfl

/-- A link counts for the target that it is about, as long as it is active and its
row is of the type. -/
theorem counts_of_type {τ : Type} [BEq (Column τ)] [LawfulBEq (Column τ)]
    {count : τ → Counter} (hinj : ∀ {x y}, count x = count y → x = y) (type : τ) {l : Link}
    {c : Column τ} (hl : l.counter = c.read?.map count) :
    (count type).counts target l =
      (c == .tag type && l.targetId == target && l.isActive) := by
  have hcounter : l.counter = some (count type) ↔ c = .tag type := by
    rw [← Column.read?_eq_some, hl, Option.map_eq_some_iff]
    exact ⟨fun ⟨x, hx, hxc⟩ => hinj hxc ▸ hx, fun h => ⟨type, h, rfl⟩⟩
  rw [Bool.eq_iff_iff, counts_eq_true, hcounter, Bool.and_eq_true,
    Bool.and_eq_true, beq_iff_eq, beq_iff_eq]
  tauto

theorem supporters_map_of_not_counts (h : ∀ r, counter.counts target (link r) = false)
    {rows : List ρ} : counter.supporters target (rows.map link) = [] := by
  rw [supporters_map h, List.filter_false, List.map_nil]

end Counter

/-! ## Likes -/

namespace Like

variable {w : World} {t : Table Row}

/-- The row of a like is active exactly when the like is. -/
theorem isActive_of_reads {r : Row} {l : Like} (h : Reads r l) :
    (r.status == .tag .active) = RelationStatus.isActive l.status := by
  rw [← Columns.stored_of_read? h]
  exact isActive_link l

/-- The row is about the same target as the like. -/
theorem isAbout_of_reads {type : LikeType} {target : Int} {r : Row} {l : Like}
    (h : Reads r l) :
    (r.likeType == .tag type && r.targetId == target) =
      (l.likeType == type && l.targetId == target) := by
  rw [← Columns.stored_of_read? h, Bool.eq_iff_iff]
  simp [Columns.stored]

theorem userId_of_reads {user : Int} {r : Row} {l : Like} (h : Reads r l) :
    (r.userId == user) = ((Liker.ofLike l).userId == user) := by
  rw [← Columns.stored_of_read? h]
  rfl

/-- Whether a user likes a target is whether there is an active row of both. -/
theorem answers_isLiked (ht : w.database.table Row = .ok t) (hsound : t.IsSound)
    (hdistinct : distinct t.rows = true) (user : Int) (type : LikeType) (target : Int) :
    ∃ liked, (isLiked user type target).Answers w liked ∧
      (t.rows.countP fun l => l.status == .tag .active && isOf user type target l) =
        liked.toNat := by
  have hone : (t.rows.filter (isOf user type target)).length ≤ 1 :=
    Toggle.filter_length_le_one (fun _ _ => conflict_of_isOf) hdistinct
  obtain ⟨found, hfound, hcount⟩ := find_and_count ht hsound hone
  refine ⟨found.any fun l => RelationStatus.isActive l.status, ?_,
    hcount _ _ fun _ _ => isActive_of_reads⟩
  rw [Procedure.Answers, isLiked, perform_bind, perform_query, find, hfound]
  rfl

/-- A like counts for the target that it is about, as long as it is active. -/
theorem counts_link (type : LikeType) (target : Int) (l : Row) :
    type.counter.counts target l.link
      = (l.likeType == .tag type && l.targetId == target && l.status == .tag .active) :=
  Counter.counts_of_type LikeType.counter_inj type rfl

/-- A favourite counts for no counter of likes. -/
theorem not_counts_favorite (type : LikeType) (target : Int) (f : Favorite.Row) :
    type.counter.counts target f.link = false := by
  refine Bool.eq_false_iff.mpr fun h => ?_
  obtain ⟨x, -, hx⟩ := Option.map_eq_some_iff.mp (Counter.counts_eq_true.mp h).2.1
  exact LikeType.counter_ne type x hx.symm

/-- The supporters of a target are those of the active likes of it. -/
theorem supporters_eq (type : LikeType) (target : Int) (db : Database) :
    type.counter.supporters target db.links = ((rowsOf Row db).filter fun l =>
      l.likeType == .tag type && l.targetId == target && l.status == .tag .active).map
        (·.userId) := by
  rw [links, Counter.supporters_append, Counter.supporters_map (counts_link type target),
    Counter.supporters_map_of_not_counts (not_counts_favorite type target), List.append_nil]
  rfl

/-- All likers of a target are read, and each of them is there once. -/
theorem walk_likers (ht : w.database.table Row = .ok t) (hsound : t.IsSound)
    (type : LikeType) (target : Int) {size : Nat} (hlow : 1 ≤ size)
    (hhigh : size ≤ Page.maxSize) :
    ∃ items, (walk (likers type target) size).Answers w items ∧
      items.length = (type.counter.supporters target w.database.links).length ∧
      (∀ n, 1 ≤ n → ∃ page, (likers type target ⟨n, size⟩).Answers w page ∧
        page.total = items.length) ∧
      ∀ user, items.countP (·.userId == user)
        = t.rows.countP fun l => l.status == .tag .active && isOf user type target l := by
  have hleaves : ∀ p, Leaves (fun v => v) (likers type target p) :=
    fun p => .bind (.query _) fun _ => .pure _
  obtain ⟨items, hitems, hwalk, htotal⟩ :=
    (isListed_likers hsound type target).walk (I := fun v => v = w)
      (fun v p l hv hl => ⟨v, Prod.ext hl (hleaves p v), hv⟩)
      (fun v hv => hv ▸ ht) hlow hhigh rfl
  refine ⟨items, hwalk, ?_, htotal, fun user => ?_⟩
  · rw [hitems.length_eq, supporters_eq, rowsOf_eq ht, List.length_map]
  · rw [hitems.countP_eq fun _ _ => userId_of_reads]
    refine List.countP_congr fun r _ => ?_
    simp only [isOf, Bool.and_eq_true]
    tauto

/-- All likes of a user are read, with a filter that lets the type pass, and each of
them is there once. -/
theorem walk_mine (ht : w.database.table Row = .ok t) (hsound : t.IsSound) (user : Int)
    (type : LikeType) (target : Int) (filter : Option LikeType)
    (hfilter : ∀ other ∈ filter, other = type) {size : Nat} (hlow : 1 ≤ size)
    (hhigh : size ≤ Page.maxSize) :
    ∃ items, (walk (mine user filter) size).Answers w items ∧
      (items.countP fun l => l.likeType == type && l.targetId == target)
        = t.rows.countP fun l => l.status == .tag .active && isOf user type target l := by
  have hleaves : ∀ p, Leaves (fun v => v) (mine user filter p) :=
    fun p => .bind (.query _) fun _ => .pure _
  obtain ⟨items, hitems, hwalk, -⟩ :=
    (isListed_mine hsound user filter).walk (I := fun v => v = w)
      (fun v p l hv hl => ⟨v, Prod.ext hl (hleaves p v), hv⟩)
      (fun v hv => hv ▸ ht) hlow hhigh rfl
  refine ⟨items, hwalk, ?_⟩
  rw [hitems.countP_eq fun _ _ => isAbout_of_reads]
  refine List.countP_congr fun r _ => ?_
  cases filter with
  | none => simp [isOf]; tauto
  | some other =>
    obtain rfl := hfilter other rfl
    simp [isOf]
    tauto

end Like

/-! ## Favourites -/

namespace Favorite

variable {w : World} {t : Table Row}

/-- The row of a favorite is active exactly when the favorite is. -/
theorem isActive_of_reads {r : Row} {f : Favorite} (h : Reads r f) :
    (r.status == .tag .active) = RelationStatus.isActive f.status := by
  rw [← Columns.stored_of_read? h]
  exact isActive_link f

theorem isCancelled_of_reads {r : Row} {f : Favorite} (h : Reads r f) :
    (r.status == .tag .cancelled) = !RelationStatus.isActive f.status := by
  rw [← Columns.stored_of_read? h]
  obtain ⟨id, favoriteType, _, _, _, _, _, _, status, _, _⟩ := f
  cases status <;> rfl

/-- The row is about the same target as the favorite. -/
theorem isAbout_of_reads {type : FavoriteType} {target : Int} {r : Row} {f : Favorite}
    (h : Reads r f) :
    (r.favoriteType == .tag type && r.targetId == target)
      = (f.favoriteType == type && f.targetId == target) := by
  rw [← Columns.stored_of_read? h, Bool.eq_iff_iff]
  simp [Columns.stored]

/-- Whether a target is a favourite is whether there is an active row of user and target. A
row that is there and not active is a cancelled one. -/
theorem answers_isKept (ht : w.database.table Row = .ok t) (hsound : t.IsSound)
    (hdistinct : distinct t.rows = true) (user : Int) (type : FavoriteType) (target : Int) :
    ∃ (found : Option Favorite) (kept : Bool), find user type target w.database = .ok found ∧
      (isKept user type target).Answers w kept ∧
      (t.rows.countP fun f => f.status == .tag .active &&
        isOf user type target f) = kept.toNat ∧
      (t.rows.countP fun f => f.status == .tag .cancelled && isOf user type target f)
        = (found.isSome && !kept).toNat := by
  have hone : (t.rows.filter (isOf user type target)).length ≤ 1 :=
    Toggle.filter_length_le_one (fun _ _ => conflict_of_isOf) hdistinct
  obtain ⟨found, hfound, hcount⟩ := find_and_count ht hsound hone
  refine ⟨found, found.any fun f => RelationStatus.isActive f.status, hfound, ?_,
    hcount _ _ fun _ _ => isActive_of_reads, ?_⟩
  · rw [Procedure.Answers, isKept, perform_bind, perform_query, find, hfound]
    rfl
  · rw [hcount _ _ fun _ _ => isCancelled_of_reads]
    cases found <;> rfl

/-- A favourite counts for the target that it is about, as long as it is active. -/
theorem counts_link (type : FavoriteType) (target : Int) (f : Row) :
    type.counter.counts target f.link
      = (f.favoriteType == .tag type && f.targetId == target && f.status == .tag .active) :=
  Counter.counts_of_type FavoriteType.counter_inj type rfl

/-- A like counts for no counter of favourites. -/
theorem not_counts_like (type : FavoriteType) (target : Int) (l : Like.Row) :
    type.counter.counts target l.link = false := by
  refine Bool.eq_false_iff.mpr fun h => ?_
  obtain ⟨x, -, hx⟩ := Option.map_eq_some_iff.mp (Counter.counts_eq_true.mp h).2.1
  exact LikeType.counter_ne x type hx

/-- The supporters of a target are those of the active favourites of it. -/
theorem supporters_eq (type : FavoriteType) (target : Int) (db : Database) :
    type.counter.supporters target db.links = ((rowsOf Row db).filter fun f =>
      f.favoriteType == .tag type && f.targetId == target && f.status == .tag .active).map
        (·.userId) := by
  rw [links, Counter.supporters_append, Counter.supporters_map (counts_link type target),
    Counter.supporters_map_of_not_counts (not_counts_like type target), List.nil_append]
  rfl

/-- The supporters of a target are the users whose favourite it is. -/
theorem mem_supporters_iff (ht : w.database.table Row = .ok t) (hsound : t.IsSound)
    (hdistinct : distinct t.rows = true) (user : Int) (type : FavoriteType) (target : Int) :
    user ∈ type.counter.supporters target w.database.links ↔
    (isKept user type target).Answers w true := by
  obtain ⟨found, kept, -, hkept, hactive, -⟩ :=
    answers_isKept ht hsound hdistinct user type target
  have hcount : 0 < kept.toNat ↔ kept = true := by cases kept <;> decide
  have htrue : (isKept user type target).Answers w true ↔ kept = true :=
    ⟨fun h => Except.ok.inj (hkept.symm.trans h), fun h => h ▸ hkept⟩
  rw [htrue, ← hcount, ← hactive, List.countP_pos_iff, supporters_eq,
    rowsOf_eq ht, List.mem_map]
  simp only [List.mem_filter, isOf, Bool.and_eq_true, beq_iff_eq]
  exact exists_congr fun r => by tauto

/-- A page that is read through a cache that is truthful is what the database says, and
the cache stays so. -/
theorem list_of_coherent {v : World} (hv : v.Coherent) (htime : v.clock < Time.calendarEnd)
    {user : Int} {filter : FavoriteFilter} {p : Page} {l : Listing Favorite}
    (hl : (Cached.favorites user filter.favoriteType filter.wanted p).answer
      v.database = .ok l) :
    ∃ v', (list user filter p).perform v = (.ok l, v') ∧ v'.Coherent ∧ v'.clock = v.clock ∧
      v'.database = v.database := by
  have houtcome := (Cached.readBy_favorites user filter p).outcome_eq (hv.truthful _)
  have hnext : (Operation.listFavorites user filter p).next v =
      ((list user filter p).perform v).2 :=
    Operation.snd_perform_silently _ v
  refine ⟨((list user filter p).perform v).2,
    Prod.ext ((congrArg Prod.fst houtcome).trans hl) rfl, ?_, ?_, congrArg Prod.snd houtcome⟩
  · have hcoherent :=
      World.coherent_next (e := .call (.listFavorites user filter p)) hv htime
    rwa [← hnext]
  · rw [← hnext]
    exact World.clock_next_call _ v

/-- All favourites of a user in a state are read, with a filter that lets the type pass, and
each of them is there once. -/
theorem walk_list (hw : w.Coherent) (htime : w.clock < Time.calendarEnd)
    (ht : w.database.table Row = .ok t) (hsound : t.IsSound) (user : Int)
    (type : FavoriteType) (target : Int) {filter : FavoriteFilter}
    (hfilter : ∀ other ∈ filter.favoriteType, other = type) {size : Nat} (hlow : 1 ≤ size)
    (hhigh : size ≤ Page.maxSize) :
    ∃ items, (walk (list user filter) size).Answers w items ∧
      (items.countP fun f => f.favoriteType == type && f.targetId == target)
        = t.rows.countP fun f => f.status == .tag filter.wanted &&
          isOf user type target f := by
  obtain ⟨items, hitems, hwalk, -⟩ := (isListed_list hsound user filter).walk
    (I := fun v => v.Coherent ∧ v.clock = w.clock ∧ v.database = w.database)
    (fun v p l ⟨hv, hclock, hdb⟩ hl => by
      obtain ⟨v', hperform, hv', hclock', hdb'⟩ := list_of_coherent hv (hclock ▸ htime) hl
      exact ⟨v', hperform, hv', hclock'.trans hclock, hdb'.trans hdb⟩)
    (fun v hv => hv.2.2 ▸ ht) hlow hhigh ⟨hw, rfl, rfl⟩
  refine ⟨items, hwalk, ?_⟩
  rw [hitems.countP_eq fun _ _ => isAbout_of_reads]
  refine List.countP_congr fun r _ => ?_
  obtain ⟨favoriteType, status⟩ := filter
  cases favoriteType with
  | none => simp [isOf]; tauto
  | some other =>
    obtain rfl := hfilter other rfl
    simp [isOf]
    tauto

end Favorite

/-! ## Runs -/

/-- There are no relations: both tables are there and empty, and every counter shows zero. -/
structure Database.IsUnrelated (db : Database) : Prop where
  likes : ∃ lastId, db.table Like.Row = .ok ⟨[], lastId⟩ ∧ Text.int64Min ≤ lastId
  favorites : ∃ lastId, db.table Favorite.Row = .ok ⟨[], lastId⟩ ∧ Text.int64Min ≤ lastId
  counters : ∀ counter : Counter, ∀ e ∈ counter.tally db, e.2 = 0

namespace Database.IsUnrelated

variable {db : Database}

/-- Without relations there is none that could be kept wrongly. -/
theorem keepsRelations (h : db.IsUnrelated) : db.KeepsRelations := by
  obtain ⟨lastLike, hlikes, hlike⟩ := h.likes
  obtain ⟨lastFavorite, hfavorites, hfavorite⟩ := h.favorites
  refine ⟨⟨⟨_, hlikes⟩, fun t ht => ?_⟩, ⟨⟨_, hfavorites⟩, fun t ht => ?_⟩⟩
  · cases hlikes.symm.trans ht
    exact ⟨hlike, fun r hr => absurd hr List.not_mem_nil⟩
  · cases hfavorites.symm.trans ht
    exact ⟨hfavorite, fun r hr => absurd hr List.not_mem_nil⟩

theorem rows_eq (h : db.IsUnrelated) :
    rowsOf Like.Row db = [] ∧ rowsOf Favorite.Row db = [] := by
  obtain ⟨lastLike, hlikes, -⟩ := h.likes
  obtain ⟨lastFavorite, hfavorites, -⟩ := h.favorites
  exact ⟨rowsOf_eq hlikes, rowsOf_eq hfavorites⟩

theorem supporters_eq (h : db.IsUnrelated) (counter : Counter) (target : Int) :
    counter.supporters target db.links = [] := by
  rw [links, h.rows_eq.1, h.rows_eq.2]
  rfl

theorem isCovered (h : db.IsUnrelated) : db.IsCovered := by
  intro counter e he
  rw [h.counters counter e he, h.supporters_eq]
  exact Int.le_refl 0

theorem isTogether (h : db.IsUnrelated) : db.IsTogether := by
  rw [IsTogether, h.rows_eq.1, h.rows_eq.2]
  exact ⟨rfl, rfl⟩

end Database.IsUnrelated

/-- Counters that start from nothing show their supporters after every run. -/
theorem World.tally_after {start : World} (hstart : start.database.IsUnrelated)
    (events : List Event) (counter : Counter) :
    ∀ e ∈ counter.tally (start.after events).database,
      e.2 = (counter.supporters e.1 (start.after events).database.links).length := by
  intro e he
  have hmargins := (margins_after hstart.isCovered events).1 counter
  have hmem := List.mem_map_of_mem (f := fun e => (e.1, e.2 -
    ((counter.supporters e.1 (start.after events).database.links).length : Int))) he
  rw [← Counter.margins, hmargins] at hmem
  obtain ⟨e₀, he₀, heq⟩ := List.mem_map.mp hmem
  have hmargin := (Prod.mk.inj heq).2
  rw [hstart.counters counter e₀ he₀, hstart.supporters_eq, List.length_nil] at hmargin
  omega

/-- From empty tables of relations and counters at zero, whatever has happened, a user likes
a target if and only if the user is among its likers, and then once, and if and only if the
target is among the likes of the user, and then once; and the target shows the number of its
likers. A target is a favourite if and only if it is in the active list, and then once; a
relation that is there and is none is in the cancelled list; and the target shows the number
of users whose favourite it is. -/
theorem relation_views_agree (start : World) (events : List Event)
    (hstart : start.database.IsUnrelated) (hrun : start.Undisturbed events) {size : Nat}
    (hlow : 1 ≤ size) (hhigh : size ≤ Page.maxSize) : let now := start.after events
    (∀ (type : LikeType) (target : Int), ∃ likers : List Liker,
      (walk (Like.likers type target) size).Answers now likers ∧
      (∀ user, ∃ (liked : Bool) (mine ofType : List Like),
        (Like.isLiked user type target).Answers now liked ∧
        (walk (Like.mine user none) size).Answers now mine ∧
        (walk (Like.mine user (some type)) size).Answers now ofType ∧
        likers.countP (·.userId == user) = liked.toNat ∧
        (mine.countP fun l => l.likeType == type && l.targetId == target) = liked.toNat ∧
        (ofType.countP fun l => l.likeType == type && l.targetId == target) = liked.toNat) ∧
      ∀ e ∈ type.counter.tally now.database, e.1 = target → e.2 = likers.length ∧
        ∀ n, 1 ≤ n → ∃ page, (Like.likers type target ⟨n, size⟩).Answers now page ∧
          e.2 = page.total) ∧
    (∀ (type : FavoriteType) (target : Int),
      (∀ user, ∃ (found : Option Favorite) (kept : Bool),
        Favorite.find user type target now.database = .ok found ∧
        (Favorite.isKept user type target).Answers now kept ∧
        ∀ filter : FavoriteFilter, (∀ other ∈ filter.favoriteType, other = type) →
          ∃ listed : List Favorite,
            (walk (Favorite.list user filter) size).Answers now listed ∧
            (listed.countP fun f => f.favoriteType == type && f.targetId == target)
              = match filter.wanted with
                | .active => kept.toNat
                | .cancelled => (found.isSome && !kept).toNat) ∧
      ∀ e ∈ type.counter.tally now.database, e.1 = target → ∃ users : List Int,
        users.Nodup ∧
        (∀ user, user ∈ users ↔ (Favorite.isKept user type target).Answers now true) ∧
          e.2 = users.length) := by
  intro now
  have hkeeps : now.database.KeepsRelations :=
    World.keepsRelations_after events hstart.keepsRelations
  have htogether : now.database.IsTogether :=
    (World.margins_after hstart.isCovered events).2 hstart.isTogether
  have htally := World.tally_after hstart events
  refine ⟨fun type target => ?_, fun type target => ?_⟩
  · obtain ⟨t, ht, hsound, hdistinct⟩ := hkeeps.likes.isSound htogether.1
    obtain ⟨likers, hlikers, hlength, htotal, hcount⟩ :=
      Like.walk_likers ht hsound type target hlow hhigh
    refine ⟨likers, hlikers, fun user => ?_, fun e he htarget => ?_⟩
    · obtain ⟨liked, hliked, hrows⟩ :=
        Like.answers_isLiked ht hsound hdistinct user type target
      obtain ⟨mine, hmine, hmineCount⟩ :=
        Like.walk_mine ht hsound user type target none nofun hlow hhigh
      obtain ⟨ofType, hofType, hofTypeCount⟩ :=
        Like.walk_mine ht hsound user type target (some type)
          (fun _ h => (Option.some.inj h).symm) hlow hhigh
      exact ⟨liked, mine, ofType, hliked, hmine, hofType, (hcount user).trans hrows,
        hmineCount.trans hrows, hofTypeCount.trans hrows⟩
    · have hshown : e.2 = likers.length := by
        rw [htally type.counter e he, htarget, hlength]
      refine ⟨hshown, fun n hn => ?_⟩
      obtain ⟨page, hpage, hpageTotal⟩ := htotal n hn
      exact ⟨page, hpage, by rw [hshown, hpageTotal]⟩
  · obtain ⟨t, ht, hsound, hdistinct⟩ := hkeeps.favorites.isSound htogether.2
    refine ⟨fun user => ?_, fun e he htarget => ?_⟩
    · obtain ⟨found, kept, hfound, hkept, hactive, hcancelled⟩ :=
        Favorite.answers_isKept ht hsound hdistinct user type target
      refine ⟨found, kept, hfound, hkept, fun filter hfilter => ?_⟩
      obtain ⟨listed, hlisted, hcount⟩ :=
        Favorite.walk_list hrun.coherent_after hrun.time ht hsound user type
          target hfilter hlow hhigh
      refine ⟨listed, hlisted, hcount.trans ?_⟩
      cases filter.wanted with
      | active => exact hactive
      | cancelled => exact hcancelled
    · exact ⟨type.counter.supporters target now.database.links,
        Counter.supporters_nodup htogether,
        fun user => Favorite.mem_supporters_iff ht hsound hdistinct user type target,
        htarget ▸ htally type.counter e he⟩

/-- The user likes the content, keeps it as a favourite and drops it again. Then the user is
among the likers, and the content is in the list of cancelled favourites. -/
theorem relation_views_agree_sample :
    let keep : Event := .call (.toggleFavorite 1 ⟨.content, 7, none, none, none, none⟩ none)
    let events : List Event :=
      [.call (.toggleLike 1 ⟨.content, 7, none, none, none, none⟩ none), keep,
        .wait 10000000, keep]
    let now := World.sample.after events
    World.sample.database.IsUnrelated ∧ World.sample.Undisturbed events ∧
      (∃ likers, (walk (Like.likers .content 7) 20).Answers now likers ∧
        likers.countP (·.userId == 1) = 1) ∧
      ∃ listed, (walk (Favorite.list 1 ⟨none, some .cancelled⟩) 20).Answers now listed ∧
        (listed.countP fun f => f.favoriteType == .content && f.targetId == 7) = 1 := by
  intro keep events now
  have hstart : World.sample.database.IsUnrelated := by
    refine ⟨⟨0, rfl, by decide⟩, ⟨0, rfl, by decide⟩, fun counter => ?_⟩
    cases counter <;> decide
  have hrun : World.sample.Undisturbed events := by
    refine ⟨⟨fun c hc => absurd hc List.not_mem_nil, fun u hu => ?_,
      fun f hf => absurd hf List.not_mem_nil⟩,
      by decide +kernel, fun _ => ⟨rfl, rfl⟩, fun c a hstores => ?_⟩
    · cases List.mem_singleton.mp hu
      exact ⟨nofun, by decide⟩
    · obtain ⟨e, hfind, -⟩ := hstores
      cases hfind
  obtain ⟨hlikes, hfavorites⟩ := relation_views_agree World.sample events hstart hrun
    (by decide : 1 ≤ 20) (by decide : 20 ≤ Page.maxSize)
  have hliked : ((Like.isLiked 1 .content 7).perform now).1.toOption = some true := by
    decide +kernel
  have hkept : ((Favorite.isKept 1 .content 7).perform now).1.toOption = some false := by
    decide +kernel
  have hfound : ((Favorite.find 1 .content 7 now.database).toOption.map Option.isSome) =
      some true := by
    decide +kernel
  refine ⟨hstart, hrun, ?_, ?_⟩
  · obtain ⟨likers, hlikers, husers, -⟩ := hlikes .content 7
    obtain ⟨liked, -, -, hanswers, -, -, hcount, -⟩ := husers 1
    rw [show ((Like.isLiked 1 .content 7).perform now).1 = .ok liked from hanswers] at hliked
    cases hliked
    exact ⟨likers, hlikers, hcount⟩
  · obtain ⟨found, kept, hfind, hanswers, hlists⟩ := (hfavorites .content 7).1 1
    obtain ⟨listed, hlisted, hcount⟩ := hlists ⟨none, some .cancelled⟩ nofun
    rw [show ((Favorite.isKept 1 .content 7).perform now).1 =
      .ok kept from hanswers] at hkept
    cases hkept
    rw [show Favorite.find 1 .content 7 now.database = .ok found from hfind] at hfound
    exact ⟨listed, hlisted,
      hcount.trans (by rw [show found.isSome = true from Option.some.inj hfound]; rfl)⟩

end Community
