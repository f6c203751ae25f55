import Community.Proofs.Relation.Call
import Community.Proofs.Relation.Fits

/-!
# One call, carried out or repeated

What one call does to the marker of its kind of call. The marker is written by a call that
is carried out and succeeds, and by nothing else; while it is live, further calls read it
and leave it alone:

> `Toggle.marker_request`: a call that was carried out and succeeded is kept; any other
> call takes its marker away at most.

> `Toggle.request_kept`: a call whose outcome is kept yields that outcome, and changes
> nothing but the notes of the cache.

> `Toggle.request_again`: a call of which nothing is kept is carried out.
-/

namespace Community

open Procedure Json

namespace Relation

variable {ρ ω β : Type} [Encode ω] [Decode ω] {issues : List Issue} {marker : String}
  {families : List String} {outcome : ρ → ω} {f : ω → β} {w : World}
  {change : Time.Timestamp → Database → Except Problem (ρ × Database)}

theorem request_of_issues (h : issues.isEmpty = false) :
    (f <$> request issues marker (carryOut change families outcome)).perform w
      = (.error (.invalid issues), w) := by
  rw [perform_map]
  have hanswered : Answered issues marker change families outcome w _ := request_answered w
  generalize (request issues marker (carryOut change families outcome)).perform w = x
    at hanswered ⊢
  cases hanswered with
  | refused => rfl
  | repeated hissues | failed hissues | done hissues =>
    rw [h] at hissues
    cases hissues

theorem request_of_get {o : ω} {c : Cache} (h : issues.isEmpty = true)
    (hget : w.cache.get w.clock marker = (some o, c)) :
    (f <$> request issues marker (carryOut change families outcome)).perform w
      = (.ok (f o), { w with cache := c }) := by
  rw [perform_map]
  have hanswered : Answered issues marker change families outcome w _ := request_answered w
  generalize (request issues marker (carryOut change families outcome)).perform w = x
    at hanswered ⊢
  cases hanswered with
  | refused hissues =>
    rw [h] at hissues
    cases hissues
  | repeated _ hget' =>
    rw [hget] at hget'
    cases hget'
    rfl
  | failed _ hget' | done _ hget' =>
    rw [hget] at hget'
    cases hget'

/-- Where the cache has no outcome, the toggle is carried out. -/
theorem request_of_none (h : issues.isEmpty = true)
    (hget : (w.cache.get w.clock marker : Option ω × Cache).1 = none) :
    ((f <$> request issues marker (carryOut change families outcome)).perform w).1
        = ((f <$> carryOut change families outcome).perform w).1 ∧
      ((f <$> request issues marker (carryOut change families outcome)).perform w).2.database
        = ((f <$> carryOut change families outcome).perform w).2.database := by
  rw [perform_map, perform_map, perform_carryOut]
  have hanswered : Answered issues marker change families outcome w _ := request_answered w
  generalize (request issues marker (carryOut change families outcome)).perform w = x
    at hanswered ⊢
  cases hanswered with
  | refused hissues =>
    rw [h] at hissues
    cases hissues
  | repeated _ hget' =>
    rw [hget'] at hget
    cases hget
  | failed _ _ hchange | done _ _ hchange =>
    rw [hchange]
    exact ⟨rfl, rfl⟩

omit [Encode ω] [Decode ω] in
/-- A toggle that is carried out and succeeds has made its change. -/
theorem carryOut_eq_ok {b : β}
    (h : ((f <$> carryOut change families outcome).perform w).1 = .ok b) :
    ∃ a db, change w.now w.database = .ok (a, db) ∧ b = f (outcome a) ∧
      ((f <$> carryOut change families outcome).perform w).2.database = db := by
  rw [perform_map, perform_carryOut] at h ⊢
  cases hchange : change w.now w.database with
  | error p =>
    rw [hchange] at h
    cases h
  | ok x =>
    rw [hchange] at h
    cases h
    exact ⟨x.1, x.2, rfl, rfl, rfl⟩

omit [Encode ω] [Decode ω] in
/-- A toggle that is carried out and fails has changed nothing. -/
theorem carryOut_eq_error {p : Problem}
    (h : ((f <$> carryOut change families outcome).perform w).1 = .error p) :
    ((f <$> carryOut change families outcome).perform w).2.database = w.database := by
  rw [perform_map, perform_carryOut] at h ⊢
  cases hchange : change w.now w.database with
  | error p => rfl
  | ok x =>
    rw [hchange] at h
    cases h

/-- A toggle that is carried out and succeeds writes its marker. Any other answer takes the
marker away at most. -/
theorem marker_request (hsteady : w.cache.IsSteady) :
    let answer := (f <$> request issues marker (carryOut change families outcome)).perform w
    let found := (w.cache.get w.clock marker : Option ω × Cache).1.map f
    (∃ o, found = none ∧ answer.1 = .ok (f o) ∧ answer.2.cache.store.find? marker
        = some ⟨marker, (encode o).render, w.clock + 1000 * w.cache.policy.marker⟩) ∨
      ((∀ b, answer.1 = .ok b → found ≠ none) ∧
        ∀ e, answer.2.cache.store.find? marker = some e →
        w.cache.store.find? marker = some e) := by
  intro answer found
  have hanswer : answer = _ := perform_map f _ w
  have hanswered : Answered issues marker change families outcome w _ := request_answered w
  rw [hanswer]
  generalize (request issues marker (carryOut change families outcome)).perform w = x
    at hanswered ⊢
  -- the look for the marker takes it away at most
  have hbefore : ∀ {found : Option ω} {c : Cache}, w.cache.get w.clock marker = (found, c) →
      ∀ e, c.store.find? marker = some e → w.cache.store.find? marker = some e := by
    intro found c hget e hfind
    have hsame : (w.cache.get w.clock marker : Option ω × Cache).2.store.find?
        marker = some e := by
      rwa [hget]
    exact Cache.sheds_get _ _ hsame
  cases hanswered with
  | refused => exact Or.inr ⟨nofun, fun e h => h⟩
  | repeated _ hget => exact Or.inr ⟨fun b _ => by simp [found, hget], hbefore hget⟩
  | failed _ hget => exact Or.inr ⟨nofun, hbefore hget⟩
  | @done a db c _ hget hchange =>
    -- the marker is written last, by a store that still does not fail
    have hsetup : c.setup = w.cache.setup := by
      have hget' : (w.cache.get w.clock marker : Option ω × Cache).2.setup = w.cache.setup :=
        Cache.setup_get
      rwa [hget] at hget'
    have hsteady' : (c.deletePatterns families).IsSteady :=
      hsteady.of_setup (Cache.setup_deletePatterns.trans hsetup)
    exact Or.inl ⟨outcome a, by simp [found, hget], rfl, Cache.find?_set_self hsteady'⟩

end Relation

namespace Toggle

variable {t : Toggle} {w : World} {o : Outcome}

/-- The toggle is carried out, with this outcome. -/
structure Executed (t : Toggle) (w : World) (o : Outcome) : Prop where
  recalled : t.recalled w = none
  result : (t.request.perform w).1 = .ok o

/-- The request is answered by carrying the toggle out, not from the cache. -/
structure IsCarriedOut (t : Toggle) (w : World) : Prop where
  recalled : t.recalled w = none
  result : (t.request.perform w).1 = (t.carryOut.perform w).1
  database : (t.request.perform w).2.database = (t.carryOut.perform w).2.database

/-- The request is answered from the cache, with this outcome. No table and no entry of the
cache is touched; that the marker was read is noted. -/
def IsRepeated (t : Toggle) (w : World) (o : Outcome) : Prop :=
  t.request.perform w =
    (.ok o, { w with cache := w.cache.note (.get t.identity.marker .hit) })

/-- The outcome is one of the kind, and its text is read back. -/
def Outcome.IsReadable : Outcome → Kind → Prop
  | .like o, .like _ => parse (encode o).render = .ok o
  | .favorite o, .favorite _ => parse (encode o).render = .ok o
  | _, _ => False

/-- What is kept of the call is the outcome, until the instant. -/
def Identity.Keeps (i : Identity) (o : Outcome) (expiresAt : Nat) (w : World) : Prop :=
  w.cache.store.find? i.marker = some ⟨i.marker, o.text, expiresAt⟩

theorem next_operation (t : Toggle) (w : World) :
    t.operation.next w = (t.request.perform w).2 := by
  cases t with
  | like | favorite =>
    rw [Operation.next, operation, Operation.run, Operation.snd_perform_silently,
      request, perform_map]

/-- A request with issues is refused. -/
theorem request_of_issues (h : t.issues.isEmpty = false) :
    t.request.perform w = (.error (.invalid t.issues), w) := by
  cases t with
  | like => exact Relation.request_of_issues h
  | favorite => exact Relation.request_of_issues h

/-- What is kept of a call is repeated, and nothing but the notes of the cache is changed. -/
theorem request_kept {expiresAt : Nat} (hissues : t.issues.isEmpty = true)
    (hsteady : w.cache.IsSteady) (hkeeps : t.identity.Keeps o expiresAt w)
    (hlive : w.clock < expiresAt) (hread : o.IsReadable t.identity.kind) :
    t.IsRepeated w o := by
  cases t <;> cases o
  case like.like userId r requestId o =>
    have hget : w.cache.get w.clock (like userId r requestId).identity.marker
        = (some o, w.cache.note (.get _ .hit)) :=
          Cache.get_of_kept hsteady hkeeps hlive hread
    exact Relation.request_of_get hissues hget
  case favorite.favorite userId r requestId o =>
    have hget : w.cache.get w.clock (favorite userId r requestId).identity.marker
        = (some o, w.cache.note (.get _ .hit)) :=
          Cache.get_of_kept hsteady hkeeps hlive hread
    exact Relation.request_of_get hissues hget
  all_goals cases hread

/-- Nothing is recalled of a call whose marker is not live. -/
theorem recall_of_stale
    (h : ∀ e, w.cache.store.find? t.identity.marker = some e → e.expiresAt ≤ w.clock) :
    t.recalled w = none := by
  cases t with
  | like => exact Option.map_eq_none_iff.mpr (Cache.get_of_stale h)
  | favorite => exact Option.map_eq_none_iff.mpr (Cache.get_of_stale h)

/-- A call of which nothing is kept is carried out. -/
theorem request_again (hissues : t.issues.isEmpty = true) (hrecall : t.recalled w = none) :
    t.IsCarriedOut w := by
  cases t with
  | like userId r requestId =>
    obtain ⟨hresult, hdatabase⟩ :=
      @Relation.request_of_none Like LikeOutcome Outcome _ _ r.issues
        (like userId r requestId).identity.marker _ _ Outcome.like w (Like.toggle userId r)
        hissues (Option.map_eq_none_iff.mp hrecall)
    exact ⟨hrecall, hresult, hdatabase⟩
  | favorite userId r requestId =>
    obtain ⟨hresult, hdatabase⟩ :=
      @Relation.request_of_none Favorite FavoriteOutcome Outcome _ _ r.issues
        (favorite userId r requestId).identity.marker _ _ Outcome.favorite w
        (Favorite.toggle userId r) hissues (Option.map_eq_none_iff.mp hrecall)
    exact ⟨hrecall, hresult, hdatabase⟩

/-- A call writes its marker if it is carried out and succeeds. Otherwise it
takes it away at most. -/
theorem marker_request (t : Toggle) (hsteady : w.cache.IsSteady) :
    (∃ o, t.Executed w o ∧
      t.identity.Keeps o (w.clock + 1000 * w.cache.policy.marker) (t.request.perform w).2) ∨
    ((∀ o, ¬ t.Executed w o) ∧ ∀ e,
      (t.request.perform w).2.cache.store.find? t.identity.marker = some e →
        w.cache.store.find? t.identity.marker = some e) := by
  cases t with
  | like userId r requestId =>
    rcases @Relation.marker_request Like LikeOutcome Outcome _ _ r.issues
      (like userId r requestId).identity.marker _ _ Outcome.like w (Like.toggle userId r)
      hsteady with ⟨o, hrecall, hok, hkeeps⟩ | ⟨hnot, hkept⟩
    · exact Or.inl ⟨.like o, ⟨hrecall, hok⟩, hkeeps⟩
    · exact Or.inr ⟨fun o h => hnot o h.result h.recalled, hkept⟩
  | favorite userId r requestId =>
    rcases @Relation.marker_request Favorite FavoriteOutcome Outcome _ _ r.issues
      (favorite userId r requestId).identity.marker _ _ Outcome.favorite w
      (Favorite.toggle userId r) hsteady with ⟨o, hrecall, hok, hkeeps⟩ | ⟨hnot, hkept⟩
    · exact Or.inl ⟨.favorite o, ⟨hrecall, hok⟩, hkeeps⟩
    · exact Or.inr ⟨fun o h => hnot o h.result h.recalled, hkept⟩

/-- A call with an outcome has no issues. -/
theorem Executed.issues (h : t.Executed w o) : t.issues.isEmpty = true := by
  cases hissues : t.issues.isEmpty with
  | true => rfl
  | false =>
    have hresult := h.result
    rw [request_of_issues hissues] at hresult
    cases hresult

/-- A request that repeats an outcome leaves the database alone. -/
theorem database_of_recalled (h : t.recalled w = some o) :
    (t.request.perform w).2.database = w.database := by
  cases hissues : t.issues.isEmpty with
  | false => rw [request_of_issues hissues]
  | true =>
    cases t with
    | like userId r requestId =>
      obtain ⟨x, hx, -⟩ := Option.map_eq_some_iff.mp h
      have hanswer := @Relation.request_of_get Like LikeOutcome Outcome _ _ r.issues
        (like userId r requestId).identity.marker ["like:*", r.likeType.counter.cachePattern]
        (fun l => ⟨RelationStatus.isActive l.status, l⟩) Outcome.like w
        (Like.toggle userId r) x _ hissues (Prod.ext hx rfl)
      exact congrArg (fun answer => answer.2.database) hanswer
    | favorite userId r requestId =>
      obtain ⟨x, hx, -⟩ := Option.map_eq_some_iff.mp h
      have hanswer := @Relation.request_of_get Favorite FavoriteOutcome Outcome _ _ r.issues
        (favorite userId r requestId).identity.marker
        [Favorite.family, r.favoriteType.counter.cachePattern]
        (fun f => ⟨RelationStatus.isActive f.status, f⟩) Outcome.favorite w
        (Favorite.toggle userId r) x _ hissues (Prod.ext hx rfl)
      exact congrArg (fun answer => answer.2.database) hanswer

/-- Only a toggle that is carried out, and succeeds, changes the database. -/
theorem database_of_not_executed (h : ∀ o, ¬ t.Executed w o) :
    (t.request.perform w).2.database = w.database := by
  cases hissues : t.issues.isEmpty with
  | false => rw [request_of_issues hissues]
  | true =>
    cases hrecall : t.recalled w with
    | some o => exact database_of_recalled hrecall
    | none =>
      have hcarried := request_again hissues hrecall
      cases hresult : (t.request.perform w).1 with
      | ok o => exact absurd ⟨hrecall, hresult⟩ (h o)
      | error p =>
        rw [hcarried.database]
        have herror := hcarried.result.symm.trans hresult
        cases t with
        | like userId r requestId => exact Relation.carryOut_eq_error herror
        | favorite userId r requestId => exact Relation.carryOut_eq_error herror

/-- What is kept of a call can be read back, since it fits. -/
theorem Executed.isReadable (h : t.Executed w o) (hdb : w.database.Fits)
    (hop : t.operation.Fits) (htime : w.clock < Time.calendarEnd) :
    o.IsReadable t.identity.kind := by
  -- the outcome is that of the change of the database, whose rows fit
  have hok : (t.carryOut.perform w).1 = .ok o :=
    (request_again h.issues h.recalled).result ▸ h.result
  cases t with
  | like userId r requestId =>
    obtain ⟨l, db, hchange, rfl, -⟩ := Relation.carryOut_eq_ok hok
    exact LikeOutcome.parse_render
      (Like.fits_toggle hdb hop.1 hop.2 (World.valid_now htime) hchange).2
  | favorite userId r requestId =>
    obtain ⟨l, db, hchange, rfl, -⟩ := Relation.carryOut_eq_ok hok
    exact FavoriteOutcome.parse_render
      (Favorite.fits_toggle hdb hop.1 hop.2 (World.valid_now htime) hchange).2

end Toggle

end Community
