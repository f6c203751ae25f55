import Community.Proofs.Cache.Lossless
import Community.Proofs.Json.Choice
import Community.Search.Basic

/-!
# The results of a search come back as they were

A hit does not say what it is, and the page that it is on shares its object with the search.
What keeps the kinds apart are the members that they demand: a content counts likes, which
neither goods nor users do, and goods count favourites, which users do not. The contact data
that a profile may lack plays no part in it.

> `search_results_come_back`: a result is decoded from its own text, and no goods are taken
> for a content and no user for either.
-/

namespace Community

open Json

/-! ## Contents -/

/-- The numbers of a content are of 64 bits, its timestamps of the calendar. -/
structure Content.Columns.Fits {col : Type → Type} (c : Content.Columns col) : Prop where
  id : Text.IsInt64 c.id
  authorId : Text.IsInt64 c.authorId
  viewCount : Text.IsInt64 c.viewCount
  likeCount : Text.IsInt64 c.likeCount
  favoriteCount : Text.IsInt64 c.favoriteCount
  createdAt : c.createdAt.Valid
  updatedAt : c.updatedAt.Valid

/-- Every status of a content is read from its spelling. -/
theorem ContentStatus.ofText?_spelling (s : ContentStatus) :
    Tag.ofText? (Tag.spelling s) = some s := by
  cases s <;> decide

/-- Every status of a review is read from its spelling. -/
theorem ReviewStatus.ofText?_spelling (s : ReviewStatus) :
    Tag.ofText? (Tag.spelling s) = some s := by
  cases s <;> decide

namespace Content

variable {c : Content}

/-- The members of a content are read as the content. -/
theorem reads {k : Nat} (h : c.Fits) : ∃ ms, encode c = .obj ms ∧ fields.Reads k ms c :=
  ⟨_, rfl, (Fields.Reads.pure (@Columns.mk Plain)).member "id" (.int64 h.id)
    |>.member "title" (.str c.title)
    |>.member "description" (.text? c.description)
    |>.member "content_type" (.str c.contentType)
    |>.member "tags" (.text? c.tags)
    |>.member "cover_url" (.text? c.coverUrl)
    |>.member "author_id" (.int64 h.authorId)
    |>.member "author_nickname" (.text? c.authorNickname)
    |>.member "status" (.tag (ContentStatus.ofText?_spelling c.status))
    |>.member "review_status" (.tag (ReviewStatus.ofText?_spelling c.reviewStatus))
    |>.member "view_count" (.int64 h.viewCount)
    |>.member "like_count" (.int64 h.likeCount)
    |>.member "favorite_count" (.int64 h.favoriteCount)
    |>.member "created_at" (.timestamp h.createdAt)
    |>.member "updated_at" (.timestamp h.updatedAt)⟩

/-- A content comes back from its JSON. -/
theorem readsBack {k : Nat} (h : c.Fits) : ReadsBack (k + 1) c := by
  obtain ⟨ms, hencode, hreads⟩ := reads (k := k) h
  exact hreads.readsBack (by decide) hencode rfl

/-- The JSON of a content is legible within one level. -/
theorem legible (h : c.Fits) : Legible 1 (encode c) := by
  refine Legible.obj_of_isFlat ?_
  simp only [List.forall_mem_cons]
  exact ⟨.int h.id.1 h.id.2, .str _, .text? _, .str _, .text? _, .text? _,
    .int h.authorId.1 h.authorId.2, .text? _, .str _, .str _,
    .int h.viewCount.1 h.viewCount.2,
    .int h.likeCount.1 h.likeCount.2, .int h.favoriteCount.1 h.favoriteCount.2, .str _,
    .str _, nofun⟩

/-- A content is not read from members without a count of likes. -/
theorem demands_likeCount : fields.Demands "like_count" :=
  .left (.left (.left (.right .one)))

end Content

/-! ## Goods -/

/-- The numbers of an article are of 64 bits, its timestamps of the calendar. -/
structure Goods.Columns.Fits {col : Type → Type} (g : Goods.Columns col) : Prop where
  id : Text.IsInt64 g.id
  sellerId : Text.IsInt64 g.sellerId
  favoriteCount : Text.IsInt64 g.favoriteCount
  createdAt : g.createdAt.Valid
  updatedAt : g.updatedAt.Valid

namespace Goods

variable {g : Goods}

/-- The members of goods are read as the goods. -/
theorem reads {k : Nat} (h : g.Fits) : ∃ ms, encode g = .obj ms ∧ fields.Reads k ms g :=
  ⟨_, rfl, (Fields.Reads.pure (@Columns.mk Plain)).member "id" (.int64 h.id)
    |>.member "name" (.str g.name)
    |>.member "description" (.text? g.description)
    |>.member "cover_url" (.text? g.coverUrl)
    |>.member "seller_id" (.int64 h.sellerId)
    |>.member "status" (.tag (ActiveStatus.ofText?_spelling g.status))
    |>.member "favorite_count" (.int64 h.favoriteCount)
    |>.member "created_at" (.timestamp h.createdAt)
    |>.member "updated_at" (.timestamp h.updatedAt)⟩

/-- Goods come back from their JSON. -/
theorem readsBack {k : Nat} (h : g.Fits) : ReadsBack (k + 1) g := by
  obtain ⟨ms, hencode, hreads⟩ := reads (k := k) h
  exact hreads.readsBack (by decide) hencode rfl

/-- The JSON of goods is legible within one level. -/
theorem legible (h : g.Fits) : Legible 1 (encode g) := by
  refine Legible.obj_of_isFlat ?_
  simp only [List.forall_mem_cons]
  exact ⟨.int h.id.1 h.id.2, .str _, .text? _, .text? _,
    .int h.sellerId.1 h.sellerId.2, .str _,
    .int h.favoriteCount.1 h.favoriteCount.2, .str _, .str _, nofun⟩

/-- Goods are not read from members without a count of favorites. -/
theorem demands_favoriteCount : fields.Demands "favorite_count" :=
  .left (.left (.right .one))

/-- An article counts no likes. -/
theorem not_content (h : g.Fits) : Refuses (decode : Decoder Content) (encode g) :=
  Content.demands_likeCount.refuses (reads (k := 0) h) (by decide) _

end Goods

/-! ## Users -/

namespace Profile

variable {p : Profile}

theorem isFlat_of_mem_given {name : String} {s : Option String} :
    ∀ e ∈ given name s, IsFlat e.2 := by
  cases s with
  | none => nofun
  | some s => exact List.forall_mem_singleton.mpr (.str s)

/-- The JSON of a profile is legible within one level. -/
theorem legible (h : p.Fits) : Legible 1 (encode p) := by
  have hcount : IsFlat (encode p.loginCount) :=
    .int (Int.le_trans (by decide) h.loginCount.1) (Int.le_trans h.loginCount.2 (by decide))
  have hlogin : IsFlat (encode p.lastLoginAt) := by
    cases p.lastLoginAt with
    | none => exact .null
    | some t => exact .str t.render
  refine Legible.obj_of_isFlat ?_
  simp only [List.forall_mem_append, List.forall_mem_cons]
  exact ⟨⟨⟨⟨.int h.id.1 h.id.2, .str _, nofun⟩, isFlat_of_mem_given⟩, isFlat_of_mem_given⟩,
    .text? _, .text? _, .text? _, .str _, .text? _, .str _, .str _, hcount, hlogin,
    .str _, nofun⟩

/-- A user counts no likes. -/
theorem not_content (h : p.Fits) : Refuses (decode : Decoder Content) (encode p) :=
  Content.demands_likeCount.refuses (reads (k := 0) h) (by decide) _

/-- A user counts no favourites. -/
theorem not_goods (h : p.Fits) : Refuses (decode : Decoder Goods) (encode p) :=
  Goods.demands_favoriteCount.refuses (reads (k := 0) h) (by decide) _

end Profile

/-! ## Hits of any kind -/

namespace SearchHit

/-- The numbers of a hit are in their ranges, its timestamps of the calendar. -/
def Fits : SearchHit → Prop
  | content c => c.Fits
  | goods g => g.Fits
  | user p => p.Fits

variable {hit : SearchHit}

/-- A hit is written as an object. -/
theorem opens (hit : SearchHit) : Opens (encode hit) := by
  cases hit <;> exact opens_obj _

/-- The JSON of a hit is legible within one level, whichever kind it is of. -/
theorem legible (h : hit.Fits) : Legible 1 (encode hit) := by
  cases hit with
  | content c => exact Content.legible h
  | goods g => exact Goods.legible h
  | user p => exact Profile.legible h

/-- The kinds that are tried before that of a hit refuse it. -/
theorem readsBack (h : hit.Fits) : ReadsBack 1 hit := by
  cases hit with
  | content c => exact ((Content.readsBack (k := 0) h).map content).first (Content.legible h)
  | goods g =>
    refine .later ((Goods.not_content h).map content) ?_
    exact ((Goods.readsBack (k := 0) h).map goods).first (Goods.legible h)
  | user p =>
    refine .later ((Profile.not_content h).map content)
      (.later ((Profile.not_goods h).map goods) ?_)
    exact ((Profile.readsBack (k := 0) h).map user).first (Profile.legible h)

end SearchHit

/-! ## Results -/

/-- Every type of search is read from its spelling. -/
theorem SearchType.ofText?_spelling (t : SearchType) :
    Tag.ofText? (Tag.spelling t) = some t := by
  cases t <;> decide

namespace SearchResult

/-- The counts of a result are unsigned numbers of 64 bits, and its hits fit. -/
structure Fits (r : SearchResult) : Prop where
  resultCount : r.resultCount ≤ Text.word64Max
  page : r.page.Fits
  hits : ∀ hit ∈ r.page.items, hit.Fits

variable {r : SearchResult}

theorem reads_own {k : Nat} (h : r.Fits) : ownFields.Reads k
    [("keyword", encode r.keyword), ("search_type", encode r.searchType),
      ("result_count", encode r.resultCount)]
    (r.keyword, r.searchType, r.resultCount) :=
  (Fields.Reads.pure fun keyword searchType count =>
    (keyword, searchType, count)).member "keyword" (.str r.keyword)
    |>.member "search_type" (.tag (SearchType.ofText?_spelling r.searchType))
    |>.member "result_count" (.nat h.resultCount)

/-- The hits lie two levels below the members of the page. -/
theorem legible_of_mem_members (h : r.Fits) : ∀ e ∈ r.page.members, Legible 2 e.2 := by
  have hdatas : Legible 2 (encode r.page.items) := by
    refine Legible.arr (fun j hj => ?_) fun j hj => ?_
    · obtain ⟨hit, hhit, rfl⟩ := List.mem_map.mp hj
      exact SearchHit.legible (h.hits hit hhit)
    · obtain ⟨hit, -, rfl⟩ := List.mem_map.mp hj
      exact hit.opens
  simp only [Listing.members, List.forall_mem_cons]
  exact ⟨hdatas, (IsFlat.nat h.page.total).legible, (IsFlat.nat h.page.page).legible,
    (IsFlat.nat h.page.size).legible, (IsFlat.nat h.page.pages).legible, nofun⟩

theorem readsBack (h : r.Fits) : ReadsBack 3 r := by
  have hpage : Listing.fields.Reads 2 r.page.members r.page :=
    Listing.reads h.page (fun hit hhit => SearchHit.readsBack (h.hits hit hhit))
      fun hit _ => hit.opens
  refine Yields.flattened _ hpage (reads_own h) List.perm_append_comm ?_
    (legible_of_mem_members h)
  show (["datas", "total", "current_page", "page_size", "total_page"] ++
    ownFields.names).Nodup
  decide

end SearchResult

/-- A result is decoded from its own text as what it was, whatever the kinds of its hits. For
at no place are goods taken for a content, and no user is taken for a content or for goods,
although these are tried first. -/
theorem search_results_come_back :
    (∀ r : SearchResult, r.Fits → parse (encode r).render = .ok r) ∧
    (∀ g : Goods, g.Fits → Refuses (decode : Decoder Content) (encode g)) ∧
    ∀ p : Profile, p.Fits →
      Refuses (decode : Decoder Content) (encode p) ∧
      Refuses (decode : Decoder Goods) (encode p) :=
  ⟨fun _ h => (SearchResult.readsBack h).parse_render (by decide),
    fun _ h => Goods.not_content h, fun _ h => ⟨Profile.not_content h, Profile.not_goods h⟩⟩

/-- A page with a user without contact data, goods, a content and a user with contact data
comes back; the marks in the keyword have to be escaped, and the last user has logged in
during a leap second. -/
theorem search_results_come_back_sample :
    let shown := Profile.shown User.sample
    let owned : Profile := { Profile.owned User.sample with
      email := some "ada@example.org"
      phone := some "+1 555"
      lastLoginAt := some ⟨2016, 12, 31, 18, 59, 60, 120000000, -300⟩ }
    let goods : Goods := ⟨3, "Gears", none, some "/gears.png", 1, ActiveStatus.active, 5,
      .ofMicros 0, .ofMicros 1⟩
    let content : Content := { Content.sample with
      status := ContentStatus.draft
      reviewStatus := ReviewStatus.pending }
    let r : SearchResult :=
      ⟨"\"a\"\n", .user, 4,
        .of [.user shown, .goods goods, .content content, .user owned] 4 .first⟩
    (r.Fits ∧ goods.Fits ∧ shown.Fits ∧ owned.Fits) ∧ parse (encode r).render = .ok r ∧
      Refuses (decode : Decoder Content) (encode goods) ∧
      (Refuses (decode : Decoder Content) (encode shown) ∧
        Refuses (decode : Decoder Goods) (encode shown)) ∧
      Refuses (decode : Decoder Content) (encode owned) ∧
      Refuses (decode : Decoder Goods) (encode owned) := by
  intro shown owned goods content r
  have hshown : shown.Fits :=
    ⟨⟨by decide, by decide⟩, ⟨by decide, by decide⟩, nofun, by decide⟩
  have howned : owned.Fits :=
    ⟨⟨by decide, by decide⟩, ⟨by decide, by decide⟩,
      fun t ht => by cases ht; decide, by decide⟩
  have hgoods : goods.Fits :=
    ⟨⟨by decide, by decide⟩, ⟨by decide, by decide⟩,
      ⟨by decide, by decide⟩, by decide, by decide⟩
  have hcontent : content.Fits :=
    ⟨⟨by decide, by decide⟩, ⟨by decide, by decide⟩, ⟨by decide, by decide⟩,
      ⟨by decide, by decide⟩, ⟨by decide, by decide⟩, by decide, by decide⟩
  have hr : r.Fits := by
    refine ⟨by decide, ⟨by decide, by decide, by decide, by decide⟩, ?_⟩
    simp only [r, Listing.of, List.forall_mem_cons]
    exact ⟨hshown, hgoods, hcontent, howned, fun _ h => absurd h List.not_mem_nil⟩
  obtain ⟨hresults, hnoContent, husers⟩ := search_results_come_back
  exact ⟨⟨hr, hgoods, hshown, howned⟩, hresults r hr, hnoContent goods hgoods,
    husers shown hshown, husers owned howned⟩

end Community
