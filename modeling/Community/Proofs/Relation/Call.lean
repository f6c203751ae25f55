import Community.Proofs.Cache.Key
import Community.Proofs.Footprint
import Community.Proofs.Relation.Request
import Community.Proofs.Text.Integer

/-!
# Calls of the two toggles

Likes and favourites are toggled by the same steps, so what is said about repeating them is
said once, about a `Toggle`. Two toggles are the same call if they agree in user, action,
type, target and the name of the request, if it has one: that is their `Identity`, and it is
all that the marker of the call is made of.

> `Identity.marker_injective`: two calls with one marker are the same call.

> `Operation.isCall_or_clear`: an operation that is not the call itself stays clear of the
> marker, whatever the client chose for the name of its request.
-/

namespace Community

open Procedure

/-- A toggle that a client asks for. -/
inductive Toggle
  | like (userId : Int) (r : LikeToggle) (requestId : Option String)
  | favorite (userId : Int) (r : FavoriteToggle) (requestId : Option String)

namespace Toggle

/-- An action, and the type of its target. -/
inductive Kind
  | like (type : LikeType)
  | favorite (type : FavoriteType)
  deriving DecidableEq

/-- What makes two toggles the same call. -/
structure Identity where
  userId : Int
  kind : Kind
  targetId : Int
  requestId : Option String
  deriving DecidableEq

/-- What a toggle yields. -/
inductive Outcome
  | like (o : LikeOutcome)
  | favorite (o : FavoriteOutcome)

/-- The name of the action in keys. -/
def Kind.action : Kind → String
  | like _ => "toggle_like"
  | favorite _ => "toggle_favorite"

/-- The spelling of the type. -/
def Kind.spelling : Kind → String
  | like type => Tag.spelling type
  | favorite type => Tag.spelling type

/-- The key under which the outcome of the call is kept. -/
def Identity.marker (i : Identity) : String :=
  Cache.markerKey i.userId i.kind.action
    ([i.kind.spelling, toString i.targetId] ++ i.requestId.toList)

/-- The text that is kept of an outcome. -/
def Outcome.text : Outcome → String
  | like o => (encode o).render
  | favorite o => (encode o).render

def identity : Toggle → Identity
  | like userId r requestId => ⟨userId, .like r.likeType, r.targetId, requestId⟩
  | favorite userId r requestId => ⟨userId, .favorite r.favoriteType, r.targetId, requestId⟩

/-- The operation that the client asks for. -/
def operation : Toggle → Operation
  | like userId r requestId => .toggleLike userId r requestId
  | favorite userId r requestId => .toggleFavorite userId r requestId

/-- What is wrong with the request. -/
def issues : Toggle → List Issue
  | like _ r _ => r.issues
  | favorite _ r _ => r.issues

/-- Answers the request. -/
def request : Toggle → Procedure Outcome
  | like userId r requestId => .like <$> Like.request userId r requestId
  | favorite userId r requestId => .favorite <$> Favorite.request userId r requestId

/-- Carries the toggle out, whatever is kept of it. -/
def carryOut : Toggle → Procedure Outcome
  | like userId r _ => .like <$> Like.carryOut userId r
  | favorite userId r _ => .favorite <$> Favorite.carryOut userId r

/-- The outcome that the cache has for the call. -/
def recalled (t : Toggle) (w : World) : Option Outcome :=
  match t with
  | like .. =>
    (w.cache.get w.clock t.identity.marker : Option LikeOutcome × Cache).1.map .like
  | favorite .. =>
    (w.cache.get w.clock t.identity.marker : Option FavoriteOutcome × Cache).1.map .favorite

/-! ## Markers -/

/-- The words of a kind have no colon. -/
theorem Kind.plain (k : Kind) : ':' ∉ k.action.toList ∧ ':' ∉ k.spelling.toList := by
  cases k with
  | like type => cases type <;> decide
  | favorite type => cases type <;> decide

/-- They tell the kind. -/
theorem Kind.eq_of_texts {k k' : Kind} (haction : k.action = k'.action)
    (hspelling : k.spelling = k'.spelling) : k = k' := by
  have hactions : "toggle_like" ≠ "toggle_favorite" := by decide
  cases k with
  | like type =>
    cases k' with
    | like type' =>
      cases type <;> cases type' <;> first | rfl | exact absurd hspelling (by decide)
    | favorite => exact absurd haction hactions
  | favorite type =>
    cases k' with
    | favorite type' =>
      cases type <;> cases type' <;> first | rfl | exact absurd hspelling (by decide)
    | like => exact absurd haction.symm hactions

/-- Two calls with one marker are the same call. -/
theorem Identity.marker_injective {i j : Identity} (h : i.marker = j.marker) : i = j := by
  have hchars := congrArg String.toList h
  unfold marker Cache.markerKey at hchars
  rw [Cache.toList_keyOf, Cache.toList_keyOf] at hchars
  have hparts := List.append_cancel_left hchars
  -- part by part from the front: only the last one may have colons in it
  obtain ⟨huser, hparts⟩ :=
    Cache.joined_cons_inj (Cache.plain_toString _) (Cache.plain_toString _) hparts
  obtain ⟨haction, hparts⟩ := Cache.joined_cons_inj i.kind.plain.1 j.kind.plain.1 hparts
  obtain ⟨hspelling, hparts⟩ := Cache.joined_cons_inj i.kind.plain.2 j.kind.plain.2 hparts
  obtain ⟨htarget, hparts⟩ :=
    Cache.joined_cons_inj (Cache.plain_toString _) (Cache.plain_toString _) hparts
  have hrequest := Cache.joined_option_inj hparts
  obtain ⟨userId, kind, targetId, requestId⟩ := i
  obtain ⟨userId', kind', targetId', requestId'⟩ := j
  cases Text.toString_injective huser
  cases Text.toString_injective htarget
  cases Kind.eq_of_texts haction hspelling
  cases hrequest
  rfl

/-- Every marker begins with the same character. -/
theorem Identity.marker_head (i : Identity) : ∃ cs, i.marker.toList = 'i' :: cs := by
  unfold marker Cache.markerKey
  rw [Cache.toList_keyOf]
  exact ⟨_, rfl⟩

/-- No key that begins with another character is a marker. -/
theorem Identity.marker_ne {i : Identity} {key : String} {c : Char} {cs : List Char}
    (hkey : key.toList = c :: cs) (hne : c ≠ 'i') : i.marker ≠ key := by
  intro h
  obtain ⟨ds, hds⟩ := i.marker_head
  rw [h, hkey] at hds
  exact hne (List.cons.inj hds).1

/-- A marker is not the key of another space. -/
theorem Identity.marker_ne_keyOf {i : Identity} {space : String} {c : Char} {cs : List Char}
    {parts : List String} (hspace : space.toList = c :: cs) (hne : c ≠ 'i') :
    i.marker ≠ Cache.keyOf space parts := by
  have hkey : (Cache.keyOf space parts).toList = c :: (cs ++ Cache.joined parts) := by
    rw [Cache.toList_keyOf, hspace, List.cons_append]
  exact marker_ne hkey hne

end Toggle

open Toggle

/-- No family that is ever removed begins like a marker. -/
theorem Operation.families_head (op : Operation) :
    ∀ p ∈ op.families, ∃ c cs, p.toList = c :: cs ∧ c ≠ '*' ∧ c ≠ 'i' := by
  -- the families of targets have the names of their kinds
  have hcounter : ∀ counter : Counter,
      ∃ c cs, counter.cachePattern.toList = c :: cs ∧ c ≠ '*' ∧ c ≠ 'i' := by
    intro counter
    cases counter <;> exact ⟨_, _, rfl, by decide, by decide⟩
  intro p hp
  cases op with
  | toggleLike userId r requestId =>
    rcases List.mem_cons.mp hp with rfl | hp
    · exact ⟨_, _, rfl, by decide, by decide⟩
    · rw [List.mem_singleton.mp hp]
      exact hcounter _
  | toggleFavorite userId r requestId =>
    rcases List.mem_cons.mp hp with rfl | hp
    · exact ⟨_, _, rfl, by decide, by decide⟩
    · rw [List.mem_singleton.mp hp]
      exact hcounter _
  | createCategory | changeCategory | removeCategory | changeProfile =>
    rw [List.mem_singleton.mp hp]
    exact ⟨_, _, rfl, by decide, by decide⟩
  | _ => exact absurd hp List.not_mem_nil

/-- No operation drops a marker by pattern. -/
theorem Operation.families_clear (op : Operation) (i : Identity) :
    ∀ p ∈ op.families, Glob.matchesKey p i.marker = false := by
  intro p hp
  obtain ⟨cs, hmarker⟩ := i.marker_head
  obtain ⟨c, ps, hpattern, hstar, hne⟩ := op.families_head p hp
  exact Glob.matchesKey_of_head_ne hpattern hmarker hstar hne

/-- An operation is the call itself, or stays clear of its marker. -/
theorem Operation.isCall_or_clear (op : Operation) (i : Identity) :
    (∃ t : Toggle, op = t.operation ∧ t.identity = i) ∨ i.marker ∉ op.keys := by
  have hsame : ∀ t : Toggle, i.marker = t.identity.marker → t.identity = i := fun t h =>
    (Identity.marker_injective h).symm
  cases op with
  | toggleLike userId r requestId =>
    by_cases h : i.marker = (Toggle.like userId r requestId).identity.marker
    · exact Or.inl ⟨_, rfl, hsame _ h⟩
    · exact Or.inr fun hmem => h (List.mem_singleton.mp hmem)
  | toggleFavorite userId r requestId =>
    by_cases h : i.marker = (Toggle.favorite userId r requestId).identity.marker
    · exact Or.inl ⟨_, rfl, hsame _ h⟩
    · exact Or.inr fun hmem => h (List.mem_singleton.mp hmem)
  | viewTree =>
    refine Or.inr fun hmem => ?_
    exact Identity.marker_ne (c := 'c') rfl (by decide) (List.mem_singleton.mp hmem)
  | viewCategory | listFavorites | viewProfile | changeProfile | listUsers =>
    refine Or.inr fun hmem => ?_
    exact Identity.marker_ne_keyOf rfl (by decide) (List.mem_singleton.mp hmem)
  | _ => exact Or.inr List.not_mem_nil

end Community
