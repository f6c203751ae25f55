import Community.Proofs.Cache.Cached
import Community.Proofs.Relation.Call

/-!
# Families of keys

Six kinds of things are kept in the cache, each under keys that begin in their own way, and a
pattern with its star at the end reaches the keys that begin like it. Which kinds a pattern
reaches is therefore decided by the beginnings alone:

> `Family.Has.matchesKey_iff`: a pattern that is not longer than the beginning of a kind
> reaches all of its keys or none.

What follows the beginning may have been chosen by a client, with colons and stars in it. It
tells the things of one kind apart (`keys_never_collide`), and has no say in anything else.
-/

namespace Community

open Toggle

/-- The key under which the outcome of a toggle is kept. -/
def Toggle.key : Toggle → String
  | like userId r requestId => Like.markerKey userId r requestId
  | favorite userId r requestId => Favorite.markerKey userId r requestId

theorem Toggle.key_eq (t : Toggle) : t.key = t.identity.marker := by
  cases t <;> rfl

/-- The kinds of things that are kept in the cache. -/
inductive Family
  | category
  | forest
  | profile
  | userList
  | favoriteList
  | outcome
  deriving DecidableEq

namespace Family

/-- How the keys of a kind begin. -/
def opening : Family → String
  | category => "category:info:"
  | forest => "category:tree"
  | profile => "user:info:"
  | userList => "user:list:"
  | favoriteList => "favorite:list:"
  | outcome => "idempotent:"

/-- The keys of a kind. -/
inductive Has : Family → String → Prop
  | category (id : Int) : Has category (Category.infoKey id)
  | forest : Has forest Category.treeKey
  | profile (id : Int) : Has profile (User.infoKey id)
  | userList (filter : UserFilter) (p : Page) : Has userList (User.listKey filter p)
  | favoriteList (userId : Int) (filter : FavoriteFilter) (p : Page) :
    Has favoriteList (Favorite.listKey userId filter p)
  | outcome (t : Toggle) : Has outcome t.key

variable {f g : Family} {key pattern : String}

theorem Has.opening (h : f.Has key) : f.opening.toList <+: key.toList := by
  have hkey : ∀ (space part : String) (parts : List String),
      space.toList ++ [':'] <+: (Cache.keyOf space (part :: parts)).toList := by
    intro space part parts
    rw [Cache.toList_keyOf]
    exact ⟨part.toList ++ Cache.joined parts, by simp [Cache.joined]⟩
  cases h with
  | category => exact hkey "category:info" _ _
  | forest => exact List.prefix_refl _
  | profile => exact hkey "user:info" _ _
  | userList => exact hkey "user:list" _ _
  | favoriteList => exact hkey "favorite:list" _ _
  | outcome t =>
    rw [t.key_eq]
    exact hkey "idempotent" _ _

/-- A key is of one kind only. -/
theorem Has.unique (h : f.Has key) (h' : g.Has key) : f = g := by
  have hopenings : ∀ f g : Family, f.opening.toList.take 10 =
      g.opening.toList.take 10 → f = g := by
    intro f g
    cases f <;> cases g <;> decide
  have hlength : ∀ f : Family, 10 ≤ f.opening.toList.length := by
    intro f
    cases f <;> decide
  refine hopenings f g ?_
  rw [List.prefix_iff_eq_take.mp h.opening, List.prefix_iff_eq_take.mp h'.opening,
    List.take_take, List.take_take, Nat.min_eq_left (hlength f), Nat.min_eq_left (hlength g)]

/-- A pattern that is not longer than the beginning of a kind reaches all of
its keys or none. -/
theorem Has.matchesKey_iff (h : f.Has key) (ps : List Char)
    (hpattern : pattern.toList = ps ++ ['*']) (hstar : '*' ∉ ps)
    (hlength : ps.length ≤ f.opening.toList.length) :
    Glob.matchesKey pattern key = true ↔ ps <+: f.opening.toList := by
  rw [Glob.matchesKey_iff_begins hpattern hstar]
  exact ⟨fun hps => List.prefix_of_prefix_length_le hps h.opening hlength,
    fun hps => hps.trans h.opening⟩

end Family

open Family

/-- Keys tell apart what is kept under them, whatever clients have chosen for keywords and
for the names of requests. Toggles have one key only if they agree in user, action, type,
target and request; lists of users only if they agree in all of the filter, with the keyword
trimmed, and in the page; lists of favourites only if they agree in user, type, state and
page. A key is of one kind. The patterns that the service removes reach the keys of the kinds
that they name, and no others. -/
theorem keys_never_collide :
    (∀ t t' : Toggle, t.key = t'.key → t.identity = t'.identity) ∧
    (∀ filter p filter' p', User.listKey filter p = User.listKey filter' p' →
      User.keywordOf filter = User.keywordOf filter' ∧ filter.status = filter'.status ∧
        filter.role = filter'.role ∧ p = p') ∧
    (∀ userId filter p userId' filter' p',
      Favorite.listKey userId filter p = Favorite.listKey userId' filter' p' →
        userId = userId' ∧ filter.favoriteType = filter'.favoriteType ∧
        filter.wanted = filter'.wanted ∧ p = p') ∧
    (∀ id id', Category.infoKey id = Category.infoKey id' → id = id') ∧
    (∀ id id', User.infoKey id = User.infoKey id' → id = id') ∧
    (∀ (f g : Family) (key : String), f.Has key → g.Has key → f = g) ∧
    ∀ (f : Family) (key : String), f.Has key →
      (Glob.matchesKey "category:*" key = true ↔ f = .category ∨ f = .forest) ∧
      (Glob.matchesKey "user:list:*" key = true ↔ f = .userList) ∧
      (Glob.matchesKey "favorite:*" key = true ↔ f = .favoriteList) ∧
      ∀ pattern ∈ ["like:*", "content:*", "comment:*", "social:*", "goods:*"],
        Glob.matchesKey pattern key = false := by
  refine ⟨fun t t' h => ?_, fun filter p filter' p' h => ?_,
    fun userId filter p userId' filter' p' h => ?_,
    fun id id' => Cached.id_eq, fun id id' => Cached.id_eq, fun f g key h h' =>
      h.unique h', ?_⟩
  · rw [t.key_eq, t'.key_eq] at h
    exact Identity.marker_injective h
  · exact Cached.users.inj (Cached.users_eq h)
  · exact Cached.favorites.inj (Cached.favorites_eq h)
  · intro f key h
    have hnone : ∀ pattern ∈ ["like:*", "content:*", "comment:*", "social:*", "goods:*"],
        pattern.toList = pattern.toList.dropLast ++ ['*'] ∧ '*' ∉ pattern.toList.dropLast ∧
          pattern.toList.dropLast.length ≤ f.opening.toList.length ∧
          ¬ pattern.toList.dropLast <+: f.opening.toList := by
      cases f <;> decide
    refine ⟨?_, ?_, ?_, fun pattern hpattern => ?_⟩
    · rw [h.matchesKey_iff "category:".toList rfl (by decide) (by cases f <;> decide)]
      cases f <;> decide
    · rw [h.matchesKey_iff "user:list:".toList rfl (by decide) (by cases f <;> decide)]
      cases f <;> decide
    · rw [h.matchesKey_iff "favorite:".toList rfl (by decide) (by cases f <;> decide)]
      cases f <;> decide
    · obtain ⟨hspelling, hstar, hlength, hnot⟩ := hnone pattern hpattern
      rw [Bool.eq_false_iff, ne_eq, h.matchesKey_iff _ hspelling hstar hlength]
      exact hnot

/-- A title has no part in the key of a toggle, and blanks around a keyword have none in the
key of a list. A keyword that is made up like the key of a category does not bring a list of
users into that family. -/
theorem keys_never_collide_sample :
    let like (title : String) : Toggle :=
      .like 1 ⟨.content, 7, some title, none, none, none⟩ (some "7:*")
    let users (keyword : String) : UserFilter := ⟨some keyword, none, none⟩
    let key := User.listKey (users " category:tree:* ") .first
    (like "a").key = (like "b").key ∧ (like "a").identity = (like "b").identity ∧
      key = User.listKey (users "category:tree:*") .first ∧
      User.keywordOf (users " category:tree:* ") = User.keywordOf (users "category:tree:*") ∧
      Glob.matchesKey "category:*" key = false ∧
      Glob.matchesKey "user:list:*" key = true := by
  intro like users key
  obtain ⟨htoggle, hlist, -, -, -, -, hfamily⟩ := keys_never_collide
  have hkey : key = User.listKey (users "category:tree:*") .first := by decide
  obtain ⟨hcategory, husers, -⟩ := hfamily .userList key (.userList _ _)
  refine ⟨rfl, htoggle _ _ rfl, hkey, (hlist _ _ _ _ hkey).1, ?_, husers.mpr rfl⟩
  rw [Bool.eq_false_iff, ne_eq, hcategory]
  decide

end Community
