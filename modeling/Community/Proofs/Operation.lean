import Community.Category.Service
import Community.Database.Schema
import Community.Proofs.Cache.Store
import Community.Proofs.Procedure
import Community.Proofs.Target.Tally
import Community.Relation.Service
import Community.Search.Service
import Community.User.Service

/-!
# Operations and runs

Everything a client can ask of the service is an `Operation`; a run is a list of `Event`s,
each an operation, a wait or the closing of the cache. Which calls of the cache fail in a
run is part of the world it starts in, so a statement about all worlds and all lists of
events is one about all failures too.

What an operation can touch is said by three lists: the tables it writes, the keys of the
cache it reads, writes or removes, and the families it removes.
-/

namespace Community

open Procedure Database

/-- What a client can ask of the service. -/
inductive Operation
  | viewCategory (id : Int)
  | listCategories (filter : CategoryFilter) (page : Page)
  | viewTree
  | viewAncestors (id : Int)
  | createCategory (r : NewCategory)
  | changeCategory (id : Int) (r : CategoryChange)
  | removeCategory (id : Int)
  | toggleLike (userId : Int) (r : LikeToggle) (requestId : Option String)
  | listLikes (userId : Int) (type : Option LikeType) (page : Page)
  | listLikers (type : LikeType) (targetId : Int) (page : Page)
  | checkLike (userId : Int) (type : LikeType) (targetId : Int)
  | toggleFavorite (userId : Int) (r : FavoriteToggle) (requestId : Option String)
  | listFavorites (userId : Int) (filter : FavoriteFilter) (page : Page)
  | checkFavorite (userId : Int) (type : FavoriteType) (targetId : Int)
  | search (r : SearchRequest) (userId : Option Int) (page : Page)
  | listHistory (userId : Int) (type : Option SearchType) (limit : Option Nat)
  | listHotKeywords (limit : Option Nat)
  | viewProfile (id : Int) (viewer : Option Int)
  | changeProfile (id : Int) (r : ProfileChange)
  | listUsers (filter : UserFilter) (page : Page)

/-- A procedure whose value is dropped. -/
def Procedure.silently {α : Type} (a : Procedure α) : Procedure Unit := do
  let _ ← a
  return ()

namespace Operation

/-- Carries an operation out. -/
def run : Operation → Procedure Unit
  | viewCategory id => silently (Category.view id)
  | listCategories filter page => silently (Category.list filter page)
  | viewTree => silently Category.tree
  | viewAncestors id => silently (Category.ancestors id)
  | createCategory r => silently (Category.create r)
  | changeCategory id r => silently (Category.change id r)
  | removeCategory id => silently (Category.remove id)
  | toggleLike userId r requestId => silently (Like.request userId r requestId)
  | listLikes userId type page => silently (Like.mine userId type page)
  | listLikers type targetId page => silently (Like.likers type targetId page)
  | checkLike userId type targetId => silently (Like.isLiked userId type targetId)
  | toggleFavorite userId r requestId => silently (Favorite.request userId r requestId)
  | listFavorites userId filter page => silently (Favorite.list userId filter page)
  | checkFavorite userId type targetId => silently (Favorite.isKept userId type targetId)
  | search r userId page => silently (Search.run r userId page)
  | listHistory userId type limit => silently (Search.history userId type limit)
  | listHotKeywords limit => silently (Search.hot limit)
  | viewProfile id viewer => silently (User.profile id viewer)
  | changeProfile id r => silently (User.change id r)
  | listUsers filter page => silently (User.list filter page)

/-- The world after an operation. -/
def next (op : Operation) (w : World) : World :=
  (op.run.perform w).2

/-- An operation whose answer is dropped changes the world as it does otherwise. -/
theorem snd_perform_silently {α : Type} (a : Procedure α) (w : World) :
    ((silently a).perform w).2 = (a.perform w).2 := by
  rw [silently, perform_bind]
  rcases a.perform w with ⟨_ | _, v⟩ <;> rfl

end Operation

/-- What can happen to the service. -/
inductive Event
  | call (op : Operation)
  /-- Time passes, in microseconds. -/
  | wait (time : Nat)
  | closeCache

/-- The world after an event. -/
def Event.next : Event → World → World
  | call op, w => op.next w
  | wait time, w => { w with clock := w.clock + time }
  | closeCache, w => { w with cache := w.cache.close }

/-- The world after a run. -/
def World.after (w : World) (events : List Event) : World :=
  events.foldl (fun v e => e.next v) w

namespace World

@[simp]
theorem after_nil (w : World) : w.after [] = w := rfl

@[simp]
theorem after_cons (w : World) (e : Event) (events : List Event) :
    w.after (e :: events) = (e.next w).after events := rfl

/-- A run of two parts is the one after the other. -/
theorem after_append (w : World) (first second : List Event) :
    w.after (first ++ second) = (w.after first).after second :=
  List.foldl_append

/-- What holds at the start and is kept by every event of a run holds at its end. -/
theorem after_induction {I : World → Prop} {w : World} {events : List Event} (hstart : I w)
    (hstep : ∀ v e, e ∈ events → I v → I (e.next v)) : I (w.after events) := by
  induction events generalizing w with
  | nil =>
    rw [after_nil]
    exact hstart
  | cons e events ih =>
    rw [after_cons]
    exact ih (hstep w e List.mem_cons_self hstart) fun v e' he' =>
      hstep v e' (List.mem_cons_of_mem e he')

/-- What `f` sees of the events of a run, one after the other. -/
def collect {α : Type} (f : Event → World → Option α) : World → List Event → List α
  | _, [] => []
  | w, e :: events => (f e w).toList ++ collect f (e.next w) events

section Collect

variable {α : Type} {f : Event → World → Option α}

/-- What is collected along two parts is collected along each. -/
theorem collect_append (w : World) (first second : List Event) :
    w.collect f (first ++ second) = w.collect f first ++
      (w.after first).collect f second := by
  induction first generalizing w with
  | nil => rfl
  | cons e first ih =>
    rw [List.cons_append, collect, collect, ih, List.append_assoc, after_cons]

/-- What is collected was found in the world before some event. -/
theorem mem_collect {w : World} {events : List Event} {a : α} :
    a ∈ w.collect f events ↔
      ∃ before e after, events = before ++ e :: after ∧ f e (w.after before) = some a := by
  induction events generalizing w with
  | nil => simp [collect]
  | cons e events ih =>
    rw [collect, List.mem_append, Option.mem_toList, ih]
    constructor
    · rintro (h | ⟨before, e', after, rfl, h⟩)
      · exact ⟨[], e, events, rfl, h⟩
      · exact ⟨e :: before, e', after, rfl, h⟩
    · rintro ⟨_ | ⟨e', before⟩, e'', after, heq, h⟩
      · cases heq
        exact Or.inl h
      · cases heq
        exact Or.inr ⟨before, e'', after, rfl, h⟩

/-- What holds of the start when nothing has been seen, and is kept by every event with what
is seen of it, holds of what is seen of a run and of its end. -/
theorem collect_induction {I : List α → World → Prop} {w : World} {events : List Event}
    (hstart : I [] w)
    (hstep : ∀ seen v e, e ∈ events → I seen v → I (seen ++ (f e v).toList) (e.next v)) :
    I (w.collect f events) (w.after events) := by
  -- what was seen before goes in front
  suffices h : ∀ seen v, I seen v → I (seen ++ v.collect f events) (v.after events) from
    h [] w hstart
  induction events with
  | nil =>
    intro seen v hv
    rwa [collect, List.append_nil]
  | cons e events ih =>
    intro seen v hv
    rw [collect, ← List.append_assoc, after_cons]
    have hrest : ∀ seen v e', e' ∈ events → I seen v →
        I (seen ++ (f e' v).toList) (e'.next v) :=
      fun seen v e' he' => hstep seen v e' (List.mem_cons_of_mem e he')
    exact ih hrest _ _ (hstep seen v e List.mem_cons_self hv)

end Collect

end World

/-! ## What an operation can touch -/

namespace Operation

/-- The tables that an operation writes. -/
def tables : Operation → List TableName
  | createCategory _ | changeCategory .. | removeCategory _ => [.category]
  | toggleLike _ r _ => [.like, r.likeType.counter.table]
  | toggleFavorite _ r _ => [.favorite, r.favoriteType.counter.table]
  | search .. => [.history, .hotSearch]
  | changeProfile .. => [.user]
  | _ => []

/-- The keys of the cache that an operation reads, writes or removes. -/
def keys : Operation → List String
  | viewCategory id => [Category.infoKey id]
  | viewTree => [Category.treeKey]
  | toggleLike userId r requestId => [Like.markerKey userId r requestId]
  | toggleFavorite userId r requestId => [Favorite.markerKey userId r requestId]
  | listFavorites userId filter page => [Favorite.listKey userId filter page]
  | viewProfile id _ => [User.infoKey id]
  | changeProfile id _ => [User.infoKey id]
  | listUsers filter page => [User.listKey filter page]
  | _ => []

/-- The families of keys that an operation removes. -/
def families : Operation → List String
  | createCategory _ | changeCategory .. | removeCategory _ => [Category.family]
  | toggleLike _ r _ => ["like:*", r.likeType.counter.cachePattern]
  | toggleFavorite _ r _ => [Favorite.family, r.favoriteType.counter.cachePattern]
  | changeProfile .. => [User.listFamily]
  | _ => []

end Operation

/-! ## A small world -/

/-- A user. -/
def User.sample : User where
  id := 1
  username := "ada"
  email := none
  phone := none
  passwordHash := none
  nickname := none
  avatar := none
  bio := none
  gender := Gender.unknown
  location := none
  status := UserStatus.active
  role := UserRole.user
  loginCount := 0
  lastLoginAt := none
  createdAt := .ofMicros 0
  updatedAt := .ofMicros 0

/-- A content that nobody likes. -/
def Content.sample : Content.Row where
  id := 7
  title := "On engines"
  description := none
  contentType := "ARTICLE"
  tags := none
  coverUrl := none
  authorId := 1
  authorNickname := none
  status := .tag .published
  reviewStatus := .tag .approved
  viewCount := 0
  likeCount := 0
  favoriteCount := 0
  createdAt := .ofMicros 0
  updatedAt := .ofMicros 0

/-- A category without a parent. -/
def Category.sample : Category where
  id := 1
  name := "Reading"
  description := none
  parentId := rootParent
  iconUrl := none
  sort := 0
  contentCount := 0
  status := ActiveStatus.active
  createdAt := .ofMicros 0
  updatedAt := .ofMicros 0

/-- A world with the user, the content and no relations. -/
def World.sample : World where
  database := { Database.fresh with
    users := ⟨some ⟨[User.sample.stored], 1⟩, none⟩
    contents := ⟨some ⟨[Content.sample], 7⟩, none⟩ }
  cache := { policy := {} }
  clock := 0

/-- The user likes the content, and takes the like back after ten seconds. -/
def World.sampleRun : List Event :=
  let like : Event := .call (.toggleLike 1 ⟨.content, 7, none, none, none, none⟩ none)
  [like, .wait 10000000, like]

end Community
