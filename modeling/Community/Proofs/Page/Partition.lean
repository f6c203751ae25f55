import Community.Proofs.Cache.Coherence
import Community.Proofs.Page.Listed
import Community.Proofs.Search.Isolation

/-!
# The lists of the service, page by page

Every paged question of the service counts, sorts and cuts (`Table.isListed`); what is left
to say for each of them is which rows it admits, by which keys it sorts, and what it shows of
a row. Lists of users and favourites are read through the cache. Their pages are what the
database says where nothing is kept of them (`Cached.ReadBy.fst_perform_of_cold`).

> `pages_partition_the_result`: the pages of each list are the matching rows in pieces, each
> row once, newest first, and categories by their sort value before that.
-/

namespace Community

open Procedure Database Text

/-- Nothing is found of the value in the cache. -/
def Cached.IsCold (c : Cached) (w : World) : Prop :=
  (w.cache.get w.clock c.key : Option c.Value × Cache).1 = none

/-- With nothing in the cache a reader answers from the database. -/
theorem Cached.ReadBy.fst_perform_of_cold {c : Cached} {a : Procedure c.Value} {w : World}
    (h : c.ReadBy a) (hcold : c.IsCold w) : (a.perform w).1 = c.answer w.database := by
  obtain ⟨compute, rfl, hcompute⟩ := h
  rw [perform_readThrough]
  rcases hget : (w.cache.get w.clock c.key : Option c.Value × Cache) with ⟨_ | b, cache⟩
  · dsimp only
    rw [hcompute]
    cases c.answer w.database <;> rfl
  · rw [IsCold, hget] at hcold
    cases hcold

/-! ## The lists -/

/-- The newest rows first. -/
theorem Table.isListed_newest {ρ α β : Type} [Entity ρ α] {t : Table ρ} (ht : t.IsSound)
    (matching : ρ → Bool) (instant : ρ → Int) (view : α → β)
    {answers : World → Page → Listing β → Prop}
    (hanswers : ∀ (w : World) (p : Page) (as : List α) total,
      page matching (descending fun r => [instant r, Entity.id r]) p w.database =
        .ok (as, total) → answers w p ((Listing.of as total p).map view)) :
    t.IsListed matching (fun r => [instant r, Entity.id r]) view answers :=
  Table.isListed ht matching (fun _ _ => rfl)
    (fun _ _ h => (List.cons.inj (List.cons.inj h).2).1) view hanswers

/-- The list of categories shows the rows that its filter admits, in the order of their keys.
-/
theorem Category.isListed_list {t : Table Row} (ht : t.IsSound) (filter : CategoryFilter) :
    t.IsListed (admits (filter.keyword.map trim) filter.parentId)
      (fun c => [c.sort, c.createdAt.instant, c.id]) id
      fun w p l => ((list filter p).perform w).1 = .ok l := by
  refine Table.isListed ht _ (fun _ _ => rfl) (fun a b h => ?_) _ fun w p as total h => ?_
  · exact (List.cons.inj (List.cons.inj (List.cons.inj h).2).2).1
  · rw [list, perform_bind, perform_query, search,
      show page _ listOrder p w.database = _ from h, Listing.map_id]
    rfl

/-- So does the list of users. -/
theorem User.isListed_list {t : Table Row} (ht : t.IsSound) (filter : UserFilter) :
    t.IsListed (admits { filter with keyword := some (keywordOf filter) })
      (fun u => [u.createdAt.instant, u.id]) Profile.shown
      fun w p l => (Cached.users (keywordOf filter) filter.status filter.role p).answer
        w.database = .ok l := by
  refine Table.isListed_newest ht _ _ _ fun w p as total h => ?_
  show Except.bind (Problem.ofStatement (page (admits _) listOrder p w.database)) _ = _
  rw [show page _ listOrder p w.database = _ from h]
  rfl

/-- One's likes are the active ones, the latest first. -/
theorem Like.isListed_mine {t : Table Row} (ht : t.IsSound) (userId : Int)
    (type : Option LikeType) :
    t.IsListed (fun l => l.userId == userId && l.status == .tag .active &&
        type.all fun t => l.likeType == .tag t)
      (fun l => [l.createdAt.instant, l.id]) id
      fun w p l => ((mine userId type p).perform w).1 = .ok l := by
  refine Table.isListed_newest ht _ _ _ fun w p as total h => ?_
  rw [mine, perform_bind, perform_query, ofUser,
    show page _ listOrder p w.database = _ from h, Listing.map_id]
  rfl

/-- The likers of a target are those of its active likes, the latest first. -/
theorem Like.isListed_likers {t : Table Row} (ht : t.IsSound) (type : LikeType)
    (targetId : Int) :
    t.IsListed (fun l => l.likeType == .tag type && l.targetId == targetId &&
      l.status == .tag .active)
      (fun l => [l.createdAt.instant, l.id]) Liker.ofLike
      fun w p l => ((likers type targetId p).perform w).1 = .ok l := by
  refine Table.isListed_newest ht _ _ _ fun w p as total h => ?_
  rw [likers, perform_bind, perform_query, onTarget,
    show page _ listOrder p w.database = _ from h]
  rfl

/-- The favorites of a user are listed by state and type, the latest first. -/
theorem Favorite.isListed_list {t : Table Row} (ht : t.IsSound) (userId : Int)
    (filter : FavoriteFilter) :
    t.IsListed (fun f => f.userId == userId && f.status == .tag filter.wanted &&
        filter.favoriteType.all fun t => f.favoriteType == .tag t)
      (fun f => [f.createdAt.instant, f.id]) id
      fun w p l => (Cached.favorites userId filter.favoriteType filter.wanted p).answer
        w.database = .ok l := by
  refine Table.isListed_newest ht _ _ _ fun w p as total h => ?_
  show Except.bind (Problem.ofStatement (page _ listOrder p w.database)) _ = _
  rw [show page _ listOrder p w.database = _ from h, Listing.map_id]
  rfl

namespace Search

variable {keyword : String}

/-- A search that finds a page answers it, whoever searches. -/
theorem fst_perform_run_of_found {type : SearchType} {p : Page} {w : World}
    {found : List SearchHit} {total : Nat} (hkeyword : Accepts ⟨keyword, type⟩)
    (h : select (Content.found keyword) (Goods.found keyword)
      (User.found keyword) type p w.database = .ok (found, total))
    (userId : Option Int) :
    ((run ⟨keyword, type⟩ userId p).perform w).1 =
      .ok ⟨keyword, type, total, .of found total p⟩ := by
  refine (outcome_run hkeyword userId p w).trans ?_
  rw [h]
  rfl

/-- A search of content lists the rows it finds, the latest first. -/
theorem isListed_contents {t : Table Content.Row} (ht : t.IsSound)
    (hkeyword : Accepts ⟨keyword, .content⟩) :
    t.IsListed (Content.found keyword)
      (fun c => [c.createdAt.instant, c.id]) SearchHit.content
      fun w p l => ∀ userId, ((run ⟨keyword, .content⟩ userId p).perform w).1
        = .ok ⟨keyword, .content, l.total, l⟩ := by
  refine Table.isListed_newest ht _ _ _ fun w p as total h => ?_
  refine fst_perform_run_of_found hkeyword ?_
  rw [select, show page _ Content.listOrder p w.database = _ from h]
  rfl

/-- A search of goods does the same. -/
theorem isListed_goods {t : Table Goods.Row} (ht : t.IsSound)
    (hkeyword : Accepts ⟨keyword, .goods⟩) :
    t.IsListed (Goods.found keyword) (fun g => [g.createdAt.instant, g.id]) SearchHit.goods
      fun w p l => ∀ userId, ((run ⟨keyword, .goods⟩ userId p).perform w).1
        = .ok ⟨keyword, .goods, l.total, l⟩ := by
  refine Table.isListed_newest ht _ _ _ fun w p as total h => ?_
  refine fst_perform_run_of_found hkeyword ?_
  rw [select, show page _ Goods.listOrder p w.database = _ from h]
  rfl

/-- So does a search of users, whose profiles it shows. -/
theorem isListed_users {t : Table User.Row} (ht : t.IsSound)
    (hkeyword : Accepts ⟨keyword, .user⟩) :
    t.IsListed (User.found keyword) (fun u => [u.createdAt.instant, u.id])
      (fun u => SearchHit.user (.shown u))
      fun w p l => ∀ userId, ((run ⟨keyword, .user⟩ userId p).perform w).1
        = .ok ⟨keyword, .user, l.total, l⟩ := by
  refine Table.isListed_newest ht _ _ _ fun w p as total h => ?_
  refine fst_perform_run_of_found hkeyword ?_
  rw [select, show page _ User.listOrder p w.database = _ from h]
  rfl

end Search

/-- Each paged list, asked for page by page, is the list of the rows that match, each once,
in the order of its keys: the newest first, and categories with the higher sort value before
that. All pages tell the same total and number of pages, all before the last are full, and
all behind the last are empty. -/
theorem pages_partition_the_result {categories : Table Category.Row} {likes : Table Like.Row}
    {favorites : Table Favorite.Row} {users : Table User.Row} {contents : Table Content.Row}
    {goods : Table Goods.Row} (hcategories : categories.IsSound) (hlikes : likes.IsSound)
    (hfavorites : favorites.IsSound) (husers : users.IsSound) (hcontents : contents.IsSound)
    (hgoods : goods.IsSound) :
    (∀ filter, categories.IsListed
      (Category.admits (filter.keyword.map trim) filter.parentId)
      (fun c => [c.sort, c.createdAt.instant, c.id]) id
      fun w p l => ((Category.list filter p).perform w).1 = .ok l) ∧
    (∀ userId type, likes.IsListed
      (fun l => l.userId == userId && l.status == .tag .active && type.all fun t =>
        l.likeType == .tag t)
      (fun l => [l.createdAt.instant, l.id]) id
      fun w p l => ((Like.mine userId type p).perform w).1 = .ok l) ∧
    (∀ type targetId, likes.IsListed
      (fun l => l.likeType == .tag type && l.targetId == targetId &&
        l.status == .tag .active)
      (fun l => [l.createdAt.instant, l.id]) Liker.ofLike
      fun w p l => ((Like.likers type targetId p).perform w).1 = .ok l) ∧
    (∀ userId filter, favorites.IsListed
      (fun f => f.userId == userId && f.status == .tag filter.wanted &&
        filter.favoriteType.all fun t => f.favoriteType == .tag t)
      (fun f => [f.createdAt.instant, f.id]) id
      fun w p l => (Cached.favorites userId filter.favoriteType filter.wanted p).IsCold w →
        ((Favorite.list userId filter p).perform w).1 = .ok l) ∧
    (∀ filter, users.IsListed
      (User.admits { filter with keyword := some (User.keywordOf filter) })
      (fun u => [u.createdAt.instant, u.id]) Profile.shown
      fun w p l =>
        (Cached.users (User.keywordOf filter) filter.status filter.role p).IsCold w →
        ((User.list filter p).perform w).1 = .ok l) ∧
    (∀ keyword, Search.Accepts ⟨keyword, .content⟩ →
      contents.IsListed (Content.found keyword)
      (fun c => [c.createdAt.instant, c.id]) SearchHit.content
      fun w p l => ∀ userId, ((Search.run ⟨keyword, .content⟩ userId p).perform w).1
        = .ok ⟨keyword, .content, l.total, l⟩) ∧
    (∀ keyword, Search.Accepts ⟨keyword, .goods⟩ → goods.IsListed (Goods.found keyword)
      (fun g => [g.createdAt.instant, g.id]) SearchHit.goods
      fun w p l => ∀ userId, ((Search.run ⟨keyword, .goods⟩ userId p).perform w).1
        = .ok ⟨keyword, .goods, l.total, l⟩) ∧
    (∀ keyword, Search.Accepts ⟨keyword, .user⟩ → users.IsListed (User.found keyword)
      (fun u => [u.createdAt.instant, u.id]) (fun u => SearchHit.user (.shown u))
      fun w p l => ∀ userId, ((Search.run ⟨keyword, .user⟩ userId p).perform w).1
        = .ok ⟨keyword, .user, l.total, l⟩) := by
  refine ⟨Category.isListed_list hcategories, Like.isListed_mine hlikes,
    Like.isListed_likers hlikes,
    fun userId filter => ?_, fun filter => ?_, fun _ => Search.isListed_contents hcontents,
    fun _ => Search.isListed_goods hgoods, fun _ => Search.isListed_users husers⟩
  · refine (Favorite.isListed_list hfavorites userId filter).mono fun w p l h hcold => ?_
    exact ((Cached.readBy_favorites userId filter p).fst_perform_of_cold hcold).trans h
  · refine (User.isListed_list husers filter).mono fun w p l h hcold => ?_
    exact ((Cached.readBy_users filter p).fst_perform_of_cold hcold).trans h

/-- Two users like the content, one a second after the other. In pages of one row there are
two pages, and the later like comes first. -/
theorem pages_partition_the_result_sample :
    let like (user : Nat) : Like.Row :=
      (Like.ofToggle user ⟨.content, 7, none, none, none, none⟩
        (.ofMicros (1000000 * user)) user).stored
    let likes : Table Like.Row := ⟨[like 1, like 2], 2⟩
    let w : World := { World.sample with database := World.sample.database.withTable likes }
    likes.IsSound ∧ ∃ page : Nat → Listing Liker,
      (∀ n, 1 ≤ n → ((Like.likers .content 7 ⟨n, 1⟩).perform w).1 = .ok (page n)) ∧
      (List.range' 1 2).flatMap (fun n => (page n).items.map Liker.userId) = [2, 1] ∧
      (page 1).pages = 2 ∧ (page 3).items = [] := by
  intro like likes w
  have hempty : ∀ {ρ α : Type} [Entity ρ α], (⟨[], 0⟩ : Table ρ).IsSound := fun {ρ α} _ =>
    ⟨fun _ h => absurd h List.not_mem_nil, .nil, Nat.zero_le _⟩
  have hlikes : likes.IsSound := by
    refine ⟨fun r hr => ?_, by decide, by decide⟩
    simp only [likes, List.mem_cons, List.not_mem_nil, or_false] at hr
    rcases hr with rfl | rfl <;> exact ⟨_, rfl⟩
  obtain ⟨-, -, hlikers, -⟩ :=
    pages_partition_the_result hempty hlikes hempty hempty hempty hempty
  obtain ⟨rows, as, hperm, hsorted, hreads, hpages⟩ := hlikers .content 7
  obtain ⟨page, hcut, hanswers⟩ := hpages 1 (Nat.le_refl 1) (by decide)
  have hrows : rows.map (·.userId) = [2, 1] := by
    have hlast : [like 2, like 1].Pairwise (Above fun l => [l.createdAt.instant, l.id]) := by
      refine .cons (fun l hl => ?_) (List.pairwise_singleton _ _)
      rw [List.mem_singleton.mp hl]
      exact .rel (by decide)
    have happly : rows = [like 2, like 1] :=
      List.Perm.eq_of_pairwise (fun a b _ _ hab hba =>
        absurd hba (List.lt_asymm hab)) hsorted hlast
        (hperm.trans (List.Perm.swap _ _ _))
    rw [happly]
    rfl
  have hshown : (as.map Liker.ofLike).map Liker.userId = [2, 1] := by
    rw [List.map_map, ← hrows]
    exact (map_eq_of_reads (fun r a h => by
      rw [← Like.Columns.stored_of_read? h]; rfl) hreads).symm
  have hcount : (as.map Liker.ofLike).length ⌈/⌉ 1 = 2 := by
    rw [← List.length_map Liker.userId, hshown, Nat.ceilDiv_eq_add_pred_div]
    rfl
  refine ⟨hlikes, page, fun n hn => hanswers n hn w (table_withTable _), ?_,
    (hcut.pages 1).trans hcount, hcut.beyond 3 ?_⟩
  · rw [← hshown, ← hcut.joined, hcount, List.map_flatMap]
  · rw [hcount]
    decide

end Community
