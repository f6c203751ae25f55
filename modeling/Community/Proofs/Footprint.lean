import Community.Proofs.Operation
import Community.Proofs.Relation.Request
import Community.Proofs.Relation.Toggle

/-!
# What an operation leaves alone

The three lists of an operation are its footprint, and nothing else is touched:

> `Operation.leaves`: whatever shows nothing of its tables, keys and families is the same
> before and after the operation, whether it succeeds or not.

`Blind` says what it is to show nothing of them. Invariants of runs come from this by
naming what they look at; only the operations that write what they look at need an
argument of their own.
-/

namespace Community

open Procedure Database

/-- `f` shows nothing of these tables, nor of these keys and families in the cache. -/
structure Blind {γ : Type} (f : World → γ) (tables : List TableName)
    (keys families : List String) : Prop where
  database : ∀ (w : World) (db : Database), AgreeOff tables w.database db →
    f { w with database := db } = f w
  get : ∀ {α : Type} [Json.Decode α] (w : World) (key : String), key ∈ keys →
    f { w with cache := (w.cache.get (α := α) w.clock key).2 } = f w
  set : ∀ {α : Type} [Encode α] (w : World) (key : String) (a : α) (ttl : Nat), key ∈ keys →
    f { w with cache := w.cache.set w.clock key a ttl } = f w
  delete : ∀ (w : World) (key : String), key ∈ keys →
    f { w with cache := w.cache.delete key } = f w
  deletePatterns : ∀ w : World, f { w with cache := w.cache.deletePatterns families } = f w

namespace Blind

variable {γ : Type} {f : World → γ} {tables : List TableName} {keys families : List String}

/-- What is shown of the database alone needs no care about the cache. -/
theorem ofDatabase (g : Database → γ)
    (h : ∀ db db', AgreeOff tables db db' → g db' = g db) :
    Blind (fun w => g w.database) tables keys families :=
  ⟨fun w db hdb => h w.database db hdb, fun _ _ _ => rfl, fun _ _ _ _ _ => rfl,
    fun _ _ _ => rfl, fun _ => rfl⟩

/-- The clock and the setup of the cache show nothing of tables and entries. -/
theorem setting : Blind (fun w => (w.clock, w.cache.setup)) tables keys families :=
  ⟨fun _ _ _ => rfl, fun w key _ => by simp, fun w key a ttl _ => by simp,
    fun w key _ => by simp, fun w => by simp⟩

/-- The entry of a key shows nothing of other keys, and of no family that it is not in. -/
theorem entry {k : String} (hkeys : k ∉ keys)
    (hfamilies : ∀ p ∈ families, Glob.matchesKey p k = false) :
    Blind (fun w => w.cache.store.find? k) tables keys families := by
  have hne : ∀ key ∈ keys, k ≠ key := fun key hkey he => hkeys (he ▸ hkey)
  exact ⟨fun _ _ _ => rfl, fun w key hkey => Cache.find?_get_ne (hne key hkey),
    fun w key a ttl hkey => Cache.find?_setText_ne (hne key hkey),
    fun w key hkey => Cache.find?_delete_ne (hne key hkey),
    fun w => Cache.find?_deletePatterns_of_not_matches hfamilies⟩

variable {α : Type}

/-- A write of a row keeps what is blind to the tables that it names. -/
theorem leaves_writeRow {ρ : Type} [Entity ρ α] (hf : Blind f tables keys families)
    {q : Database → Except Fault (ρ × Database)}
    (hq : ∀ db r db', q db = .ok (r, db') → AgreeOff tables db db') :
    Leaves f (writeRow q) :=
  .writeRow fun w r db h => hf.database w db (hq w.database r db h)

/-- So does a write that may fail without a trace. -/
theorem leaves_attempt (hf : Blind f tables keys families)
    {q : Database → Except Fault (α × Database)}
    (hq : ∀ db a db', q db = .ok (a, db') → AgreeOff tables db db') : Leaves f (attempt q) :=
  .attempt fun w a db h => hf.database w db (hq w.database a db h)

/-- A read through the cache writes its own key alone. -/
theorem leaves_readThrough [Encode α] [Json.Decode α] (hf : Blind f tables keys families)
    {key : String} (hkey : key ∈ keys) {ttl : Cache.Policy → Nat} {compute : Procedure α}
    (hcompute : Leaves f compute) : Leaves f (readThrough key ttl compute) :=
  .readThrough (fun w => hf.get w key hkey) hcompute fun w a => hf.set w key a _ hkey

end Blind

/-! ## Steps that only ask -/

section Questions

variable {γ : Type} {f : World → γ}

theorem Procedure.Leaves.silently {α : Type} {a : Procedure α} (h : Leaves f a) :
    Leaves f (silently a) :=
  .bind h fun _ => .pure ()

namespace Category

theorem leaves_findActive (id : Int) : Leaves f (findActive id) :=
  .bind (.query _) fun _ => .pure _

/-- The checks of a category only read, that of its parent among them. -/
theorem leaves_ensureParent (parentId : Int) : Leaves f (ensureParent parentId) := by
  unfold ensureParent
  split
  · exact .pure _
  · exact .bind (leaves_findActive parentId) fun _ => .ite (.throw _) (.pure _)

/-- The search for a sibling of the same name only reads. -/
theorem leaves_ensureFreeName (parentId : Int) (name : String) (except? : Option Int) :
    Leaves f (ensureFreeName parentId name except?) := by
  refine .bind (.query _) fun found => ?_
  cases found with
  | none => exact .pure _
  | some other => exact .ite (.throw _) (.pure _)

/-- The check of a move only reads. -/
theorem leaves_ensureMove (id parentId : Int) : Leaves f (ensureMove id parentId) := by
  have hrest : Leaves f (do
      ensureParent parentId
      if ← check (isWithin (← get).database parentId id) then throw .descendantParent) := by
    refine .bind (leaves_ensureParent parentId) fun _ => .bind .get fun w => ?_
    exact .bind (.check _) fun _ => .ite (.throw _) (.pure _)
  unfold ensureMove
  split
  · exact .bind (.throw _) fun _ => hrest
  · exact hrest

/-- So do the checks of a change together. -/
theorem leaves_ensureChange (id : Int) (c next : Category) :
    Leaves f (ensureChange id c next) := by
  have hname : Leaves f (do
      if next.name ≠ c.name ∨ next.parentId ≠ c.parentId then
        ensureFreeName next.parentId next.name (some id)) :=
    .ite (leaves_ensureFreeName _ _ _) (.pure _)
  exact .ite (.bind (leaves_ensureMove id next.parentId) fun _ => hname) hname

/-- The check that a category can go only reads. -/
theorem leaves_ensureUnused (id : Int) : Leaves f (ensureUnused id) := by
  have hchildren : Leaves f (do
      let children ← query (childCount id)
      if children > 0 then throw (.activeChildren id children)) :=
    .bind (.query _) fun _ => .ite (.throw _) (.pure _)
  refine .bind (.query _) fun found => ?_
  split
  · exact .bind (.throw _) fun _ => hchildren
  · exact hchildren

end Category

namespace User

/-- The search for another user of the name only reads. -/
theorem leaves_ensureFreeUsername (u : User) (r : ProfileChange) :
    Leaves f (ensureFreeUsername u r) := by
  unfold ensureFreeUsername
  split
  · exact .pure _
  · exact .ite (.bind (.query _) fun _ => .ite (.throw _) (.pure _)) (.pure _)

theorem leaves_ensureFreeEmail (u : User) (r : ProfileChange) :
    Leaves f (ensureFreeEmail u r) := by
  unfold ensureFreeEmail
  split
  · exact .pure _
  · exact .ite (.bind (.query _) fun _ => .ite (.throw _) (.pure _)) (.pure _)

end User

theorem Search.leaves_ensureKeyword (r : SearchRequest) :
    Leaves f (Search.ensureKeyword r) :=
  .bind (.check _) fun _ => .ite (.throw _) (.pure _)

/-- Finding the hits of a search only reads. -/
theorem Search.leaves_hits (r : SearchRequest) (p : Page) : Leaves f (Search.hits r p) := by
  unfold Search.hits
  split <;> exact .bind (.query _) fun _ => .pure _

end Questions

/-! ## Statements of the services -/

namespace HotSearch

variable {keyword : String} {now : Time.Timestamp} {db db' : Database}

/-- Counting a search on changes the table of the hot searches alone. -/
theorem agreeOff_increment {counted : Bool}
    (h : increment keyword now db = .ok (counted, db')) : AgreeOff [.hotSearch] db db' := by
  obtain ⟨⟨rows, db₁⟩, hupdate, h⟩ := bind_eq_ok h
  cases h
  exact agreeOff_update hupdate

/-- So does counting a search that may be the first of its keyword. -/
theorem agreeOff_bump (h : bump keyword now db = .ok ((), db')) :
    AgreeOff [.hotSearch] db db' := by
  obtain ⟨⟨counted, db₁⟩, hincrement, h⟩ := bind_eq_ok h
  have hfirst := agreeOff_increment hincrement
  have hthen : ∀ {db₂}, AgreeOff [.hotSearch] db₁ db₂ → AgreeOff [.hotSearch] db db₂ :=
    fun hsecond => (hfirst.trans hsecond).mono
      (List.append_subset.mpr ⟨fun _ h => h, fun _ h => h⟩)
  cases counted with
  | true =>
    cases h
    exact hfirst
  | false =>
    dsimp only at h
    rw [if_neg Bool.false_ne_true] at h
    split at h
    · next x db₂ hinsert =>
      cases h
      exact hthen (agreeOff_insert hinsert)
    · -- the keyword is there after all, and its row is counted
      obtain ⟨⟨counted, db₂⟩, hincrement, h⟩ := bind_eq_ok h
      cases h
      exact hthen (agreeOff_increment hincrement)
    · cases h

end HotSearch

/-- Erasing a category changes the table of the categories alone. -/
theorem Category.agreeOff_erase {id : Int} {was : Bool} {db db' : Database}
    (h : Category.erase id db = .ok (was, db')) : AgreeOff [.category] db db' := by
  obtain ⟨⟨n, db₁⟩, hdelete, h⟩ := bind_eq_ok h
  cases h
  exact agreeOff_delete hdelete

/-! ## Operations -/

section Operations

variable {γ : Type} {f : World → γ} {tables : List TableName} {keys families : List String}

/-- A toggle writes the tables of its change, its marker and the families it drops. -/
theorem Relation.leaves_request {ρ ω : Type} [Encode ω] [Json.Decode ω]
    (hf : Blind f tables keys families) {issues : List Issue} {marker : String}
    {change : Time.Timestamp → Database → Except Problem (ρ × Database)} {outcome : ρ → ω}
    (hmarker : marker ∈ keys)
    (hchange : ∀ now db a db', change now db = .ok (a, db') → AgreeOff tables db db') :
    Leaves f (request issues marker (carryOut change families outcome)) := by
  refine .bind (.check _) fun _ => hf.leaves_readThrough hmarker (.bind .now fun now => ?_)
  refine .bind (.transact fun w a db h =>
    hf.database w db (hchange now w.database a db h)) ?_
  exact fun a => .bind (.forgetFamilies hf.deletePatterns) fun _ => .pure _

/-- Creating a category writes the categories and drops their family from the cache. -/
theorem Category.leaves_create (hf : Blind f [.category] keys [family]) (r : NewCategory) :
    Leaves f (create r) := by
  refine .bind (.check _) fun _ => .bind (leaves_ensureParent _) fun _ => ?_
  refine .bind (leaves_ensureFreeName _ _ _) fun _ => .bind .now fun now => ?_
  refine .bind (hf.leaves_writeRow fun db c db' h => agreeOff_insert h) fun c => ?_
  exact .bind (.forgetFamilies hf.deletePatterns) fun _ => .pure _

theorem Category.leaves_change (hf : Blind f [.category] keys [family]) (id : Int)
    (r : CategoryChange) : Leaves f (change id r) := by
  refine .bind (.check _) fun _ => .bind (.query _) fun found => ?_
  cases found with
  | none => exact .throw _
  | some c =>
    refine .bind .now fun now => .bind (leaves_ensureChange id c _) fun _ => ?_
    refine .bind (hf.leaves_writeRow fun db c db' h => agreeOff_replace h) fun c => ?_
    exact .bind (.forgetFamilies hf.deletePatterns) fun _ => .pure _

theorem Category.leaves_remove (hf : Blind f [.category] keys [family]) (id : Int) :
    Leaves f (remove id) := by
  refine .bind (leaves_ensureUnused id) fun _ =>
    .bind (.transact fun w was db h => ?_) fun _ => ?_
  · exact hf.database w db (agreeOff_erase (Problem.ofStatement_eq_ok h))
  · exact .forgetFamilies hf.deletePatterns

/-- A change of the profile writes the users and drops what shows them. -/
theorem User.leaves_change {id : Int} (hf : Blind f [.user] [infoKey id] [listFamily])
    (r : ProfileChange) : Leaves f (change id r) := by
  refine .bind (.check _) fun _ => .bind (.query _) fun found => ?_
  cases found with
  | none => exact .throw _
  | some u =>
    refine .bind (leaves_ensureFreeUsername u r) fun _ => ?_
    refine .bind (leaves_ensureFreeEmail u r) fun _ => .bind .now fun now => ?_
    refine .bind (hf.leaves_writeRow fun db u db' h => agreeOff_replace h) fun u => ?_
    refine .bind (.forget fun w => hf.delete w _ (List.mem_singleton_self _)) fun _ => ?_
    exact .bind (.forgetFamilies hf.deletePatterns) fun _ => .pure _

/-- A search writes the history and the hot searches. -/
theorem Search.leaves_run (hf : Blind f [.history, .hotSearch] keys families)
    (r : SearchRequest) (userId : Option Int) (p : Page) : Leaves f (run r userId p) := by
  refine .bind (leaves_ensureKeyword r) fun _ => .bind (leaves_hits r p) fun found => ?_
  refine .bind (.bind ?_ fun _ => .bind .now fun now => ?_) fun _ => .pure _
  · unfold recordFor
    split
    · refine .bind .now fun now => hf.leaves_attempt fun db a db' h => ?_
      exact (agreeOff_insert h).mono (by decide)
    · exact .pure _
  · exact hf.leaves_attempt fun db a db' h => (HotSearch.agreeOff_bump h).mono (by decide)

/-- Nothing but its footprint is touched by an operation. -/
theorem Operation.leaves {op : Operation} (hf : Blind f op.tables op.keys op.families) :
    Leaves f op.run := by
  cases op with
  | viewCategory id =>
    refine .silently (hf.leaves_readThrough (List.mem_singleton_self _) ?_)
    refine .bind (Category.leaves_findActive id) fun found => ?_
    cases found with
    | some c => exact .pure _
    | none => exact .throw _
  | listCategories filter page => exact .silently (.bind (.query _) fun _ => .pure _)
  | viewTree =>
    refine .silently (hf.leaves_readThrough (List.mem_singleton_self _) ?_)
    exact .bind (.query _) fun _ => .check _
  | viewAncestors id =>
    refine .silently (.bind (Category.leaves_findActive id) fun found => ?_)
    cases found with
    | none => exact .pure _
    | some c => exact .bind .get fun w => .bind (.check _) fun _ => .pure _
  | createCategory r => exact .silently (Category.leaves_create hf r)
  | changeCategory id r => exact .silently (Category.leaves_change hf id r)
  | removeCategory id => exact .silently (Category.leaves_remove hf id)
  | toggleLike userId r requestId =>
    exact .silently (Relation.leaves_request hf (List.mem_singleton_self _)
      fun now _ _ _ h => (Like.toggling userId r now).agreeOff_run
        ((Like.run_toggling ..).trans h))
  | listLikes userId type page => exact .silently (.bind (.query _) fun _ => .pure _)
  | listLikers type targetId page => exact .silently (.bind (.query _) fun _ => .pure _)
  | checkLike userId type targetId => exact .silently (.bind (.query _) fun _ => .pure _)
  | toggleFavorite userId r requestId =>
    exact .silently (Relation.leaves_request hf (List.mem_singleton_self _)
      fun now _ _ _ h => (Favorite.toggling userId r now).agreeOff_run
        ((Favorite.run_toggling ..).trans h))
  | listFavorites userId filter page =>
    refine .silently (hf.leaves_readThrough (List.mem_singleton_self _) ?_)
    exact .bind (.query _) fun _ => .pure _
  | checkFavorite userId type targetId => exact .silently (.bind (.query _) fun _ => .pure _)
  | search r userId page => exact .silently (Search.leaves_run hf r userId page)
  | listHistory userId type limit => exact .silently (.bind (.check _) fun _ => .query _)
  | listHotKeywords limit =>
    exact .silently (.bind (.check _) fun _ => .bind (.query _) fun _ => .pure _)
  | viewProfile id viewer =>
    refine .silently
      (.bind (hf.leaves_readThrough (List.mem_singleton_self _) ?_) fun _ => .pure _)
    refine .bind (.query _) fun found => ?_
    cases found with
    | some u => exact .pure _
    | none => exact .throw _
  | changeProfile id r => exact .silently (User.leaves_change hf r)
  | listUsers filter page =>
    refine .silently (hf.leaves_readThrough (List.mem_singleton_self _) ?_)
    exact .bind (.query _) fun _ => .pure _

end Operations

namespace Operation

/-- An operation changes its own tables only. -/
theorem agreeOff_next (op : Operation) (w : World) :
    AgreeOff op.tables w.database (op.next w).database := by
  -- all other tables together are one thing that is shown of the world
  have hblind : Blind (fun v => (fun (name : TableName) (_ : name ∉ op.tables) =>
      v.database.slotAt name, v.database.steps)) op.tables op.keys op.families :=
    .ofDatabase
      (fun db => (fun (name : TableName) (_ : name ∉ op.tables) => db.slotAt name, db.steps))
      fun db db' h =>
        Prod.ext (funext fun name => funext fun hname => h.slotAt name hname) h.steps
  obtain ⟨hslots, hsteps⟩ := Prod.mk.inj (leaves hblind w)
  exact ⟨fun name hname => congrFun (congrFun hslots name) hname, hsteps⟩

/-- An operation commits one toggle, or leaves relations and their targets alone. -/
theorem toggle_or_agreeOff (op : Operation) (w : World) :
    (∃ userId r requestId l, op = toggleLike userId r requestId ∧
        Like.toggle userId r w.now w.database = .ok (l, (op.next w).database)) ∨
      (∃ userId r requestId f, op = toggleFavorite userId r requestId ∧
        Favorite.toggle userId r w.now w.database = .ok (f, (op.next w).database)) ∨
      AgreeOff [.category, .user, .history, .hotSearch] w.database (op.next w).database := by
  have hagree := op.agreeOff_next w
  cases op with
  | toggleLike userId r requestId =>
    rw [next, run, snd_perform_silently]
    rcases Like.database_request userId r requestId w with hsame | ⟨l, hchange⟩
    · rw [hsame]
      exact Or.inr (Or.inr (.refl _ _))
    · exact Or.inl ⟨userId, r, requestId, l, rfl, hchange⟩
  | toggleFavorite userId r requestId =>
    rw [next, run, snd_perform_silently]
    rcases Favorite.database_request userId r requestId w with hsame | ⟨f, hchange⟩
    · rw [hsame]
      exact Or.inr (Or.inr (.refl _ _))
    · exact Or.inr (Or.inl ⟨userId, r, requestId, f, rfl, hchange⟩)
  -- no other operation writes these tables, whatever comes of it
  | createCategory | changeCategory | removeCategory | search | changeProfile =>
    refine Or.inr (Or.inr (hagree.mono ?_))
    simp [tables]
  | _ =>
    refine Or.inr (Or.inr (hagree.mono ?_))
    exact List.nil_subset _

end Operation

end Community
