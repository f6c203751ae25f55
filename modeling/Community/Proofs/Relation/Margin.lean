import Community.Proofs.Footprint
import Community.Proofs.Relation.Link

/-!
# Counters follow relations

The *margin* of a counter at a target is what it shows beyond the relations that count.
Where no margin is negative, no run changes any margin:

> `World.margins_after`: the margins at the end of a run are those at its start.

A toggle moves the number of supporters and the counter by the same step, and this is where
the bound is needed: a counter that goes down stops at zero, and it is the supporter that is
lost who shows that it was above zero. Every other operation writes other tables
(`Operation.leaves`). Relations and counters that start from nothing are therefore always
equal, and since the rows of relations stay distinct, a counter counts users.
-/

namespace Community

open Database Time

/-- The margins of a counter: for all that it counts, what it shows beyond its supporters. -/
def Counter.margins (counter : Counter) (db : Database) : List (Int × Int) :=
  (counter.tally db).map fun e => (e.1, e.2 - (counter.supporters e.1 db.links).length)

/-- Whether every counter shows its supporters at least. -/
def Database.IsCovered (db : Database) : Prop :=
  ∀ counter : Counter, ∀ e ∈ counter.tally db,
    ((counter.supporters e.1 db.links).length : Int) ≤ e.2

/-- Covered databases are those without negative margins. -/
theorem Database.isCovered_iff {db : Database} :
    db.IsCovered ↔ ∀ counter : Counter, ∀ m ∈ counter.margins db, 0 ≤ m.2 := by
  unfold IsCovered Counter.margins
  constructor
  · intro h counter m hm
    obtain ⟨e, he, rfl⟩ := List.mem_map.mp hm
    have := h counter e he
    show 0 ≤ e.2 - _
    omega
  · intro h counter e he
    have := h counter _ (List.mem_map_of_mem he)
    simp only at this
    omega

theorem Database.IsCovered.of_margins {db db' : Database} (h : db.IsCovered)
    (hmargins : ∀ counter : Counter, counter.margins db' = counter.margins db) :
    db'.IsCovered := by
  rw [isCovered_iff] at h ⊢
  intro counter m hm
  rw [hmargins] at hm
  exact h counter m hm

theorem Counter.margins_agreeOff {counter : Counter} {names : List TableName}
    {db db' : Database} (h : AgreeOff names db db') (hcounter : counter.table ∉ names)
    (hlike : TableName.like ∉ names) (hfavorite : TableName.favorite ∉ names) :
    counter.margins db' = counter.margins db := by
  rw [margins, margins, tally_agreeOff h hcounter, links_agreeOff h hlike hfavorite]

/-! ## One toggle -/

namespace Toggled

variable {l : Link} {counter : Counter} {db db' : Database}

/-- The step of the counter is never stopped at zero: a link that no longer
counts did so before. -/
theorem apply_eq (h : Toggled l counter db db') (hcovered : db.IsCovered) {e : Int × Int}
    (he : e ∈ counter.tally db) (hid : e.1 = l.targetId) :
    (Delta.ofState l.isActive).apply e.2 = e.2 + l.change := by
  have hcover := hcovered counter e he
  have hself := h.flipped.supporters_self h.isFor
  rw [hid] at hcover
  unfold Link.change at hself ⊢
  cases hactive : l.isActive with
  | true => rfl
  | false =>
    -- the supporter who is lost was covered by the counter, which was one at least
    rw [hactive, if_neg Bool.false_ne_true] at hself
    show max (e.2 - 1) 0 = e.2 + -1
    omega

/-- A toggle leaves all margins as they are. -/
theorem margins_eq (h : Toggled l counter db db') (hcovered : db.IsCovered)
    (other : Counter) : other.margins db' = other.margins db := by
  unfold Counter.margins
  by_cases hother : other = counter
  · subst hother
    rw [h.self, List.map_map]
    refine List.map_congr_left fun e he => ?_
    show ((Counter.bumped _ _ e).1, (Counter.bumped _ _ e).2 - _) = _
    rw [Counter.bumped_fst]
    by_cases hid : e.1 = l.targetId
    · -- at the target of the link, counter and supporters move together
      have hself := h.flipped.supporters_self h.isFor
      have happly := h.apply_eq hcovered he hid
      rw [Counter.bumped_of_eq hid, hid, happly, hself]
      exact congrArg _ (by omega)
    · rw [Counter.bumped_of_ne hid,
        h.flipped.supporters_other fun hsame => hid hsame.2.symm]
  · rw [h.other other hother]
    refine List.map_congr_left fun e _ => ?_
    rw [h.flipped.supporters_other fun hsame =>
      hother (Option.some.inj (hsame.1.symm.trans h.isFor))]

end Toggled

/-! ## Runs -/

/-- An operation toggles one relation, or leaves relations and counters alone. -/
theorem Operation.toggled_or_agreeOff (op : Operation) (w : World) :
    (∃ l counter, Toggled l counter w.database (op.next w).database) ∨
      AgreeOff [.category, .user, .history, .hotSearch] w.database (op.next w).database := by
  rcases op.toggle_or_agreeOff w with
    ⟨userId, r, requestId, l, -, hchange⟩ | ⟨userId, r, requestId, f, -, hchange⟩ | hagree
  · exact Or.inl ⟨_, _, (Like.toggled hchange).2⟩
  · exact Or.inl ⟨_, _, (Favorite.toggled hchange).2⟩
  · exact Or.inr hagree

namespace World

variable {w : World}

/-- The rows of relations stay distinct. -/
theorem isTogether_next (e : Event) (w : World) (h : w.database.IsTogether) :
    (e.next w).database.IsTogether := by
  cases e with
  | wait | closeCache => exact h
  | call op =>
    rcases op.toggled_or_agreeOff w with ⟨l, counter, htoggled⟩ | hagree
    · exact htoggled.isTogether h
    · exact isTogether_agreeOff hagree (by decide) (by decide) h

/-- One event leaves all margins as they are. -/
theorem next_margins (e : Event) (hcovered : w.database.IsCovered) (counter : Counter) :
    counter.margins (e.next w).database = counter.margins w.database := by
  cases e with
  | wait | closeCache => rfl
  | call op =>
    rcases op.toggled_or_agreeOff w with ⟨l, _, htoggled⟩ | hagree
    · exact htoggled.margins_eq hcovered counter
    · exact Counter.margins_agreeOff hagree (by cases counter <;> decide)
        (by decide) (by decide)

/-- No run changes a margin, and the rows of relations stay distinct. -/
theorem margins_after (hcovered : w.database.IsCovered) (events : List Event) :
    (∀ counter : Counter, counter.margins (w.after events).database =
      counter.margins w.database) ∧
      (w.database.IsTogether → (w.after events).database.IsTogether) := by
  refine ⟨?_, fun h => after_induction h fun v e _ hv => isTogether_next e v hv⟩
  refine after_induction (I := fun v => ∀ counter : Counter,
    counter.margins v.database = counter.margins w.database) (fun _ => rfl) ?_
  intro v e _ hmargins counter
  exact (next_margins e (hcovered.of_margins hmargins) counter).trans (hmargins counter)

end World

/-- Where every counter shows its supporters at least, what it shows beyond them never
changes. So no counter is ever negative, none is ever stopped at zero, and counters that
start from nothing count users. -/
theorem counters_follow_relations (w : World) (events : List Event)
    (hcovered : w.database.IsCovered) : let db := (w.after events).database
    (∀ counter : Counter, counter.margins db = counter.margins w.database) ∧
    (∀ counter : Counter, ∀ e ∈ counter.tally db, 0 ≤ e.2) ∧
    (∀ userId r now l db', Like.toggle userId r now db = .ok (l, db') →
      ∀ e ∈ r.likeType.counter.tally db, e.1 = r.targetId →
        (Delta.ofState (RelationStatus.isActive l.status)).apply e.2
          = if RelationStatus.isActive l.status then e.2 + 1 else e.2 - 1) ∧
    (∀ userId r now f db', Favorite.toggle userId r now db = .ok (f, db') →
      ∀ e ∈ r.favoriteType.counter.tally db, e.1 = r.targetId →
        (Delta.ofState (RelationStatus.isActive f.status)).apply e.2
          = if RelationStatus.isActive f.status then e.2 + 1 else e.2 - 1) ∧
    (rowsOf Like.Row w.database = [] → rowsOf Favorite.Row w.database = [] →
      (∀ counter : Counter, ∀ e ∈ counter.tally w.database, e.2 = 0) →
      ∀ counter : Counter, ∀ e ∈ counter.tally db,
        (counter.supporters e.1 db.links).Nodup ∧
        e.2 = (counter.supporters e.1 db.links).length) := by
  intro db
  obtain ⟨hmargins, htogether⟩ := World.margins_after hcovered events
  have hreached : db.IsCovered := hcovered.of_margins hmargins
  refine ⟨hmargins, ?_, ?_, ?_, ?_⟩
  · intro counter e he
    have := hreached counter e he
    omega
  · intro userId r now l db' htoggle e he hid
    obtain ⟨htarget, htoggled⟩ := Like.toggled htoggle
    have happly := htoggled.apply_eq hreached he (hid.trans htarget.symm)
    rwa [Link.add_change, Like.isActive_link] at happly
  · intro userId r now f db' htoggle e he hid
    obtain ⟨htarget, htoggled⟩ := Favorite.toggled htoggle
    have happly := htoggled.apply_eq hreached he (hid.trans htarget.symm)
    rwa [Link.add_change, Favorite.isActive_link] at happly
  · intro hlikes hfavorites hzero counter e he
    have hlinks : w.database.links = [] := by rw [links, hlikes, hfavorites]; rfl
    have hstart : w.database.IsTogether := by
      rw [IsTogether, hlikes, hfavorites]; exact ⟨rfl, rfl⟩
    refine ⟨Counter.supporters_nodup (htogether hstart), ?_⟩
    -- the margin of `e` was there at the start, where both of its numbers were zero
    have hm : (e.1, e.2 - ((counter.supporters e.1 db.links).length : Int))
        ∈ counter.margins w.database := by
      rw [← hmargins counter]
      exact List.mem_map_of_mem he
    obtain ⟨e₀, he₀, heq⟩ := List.mem_map.mp hm
    have hmargin := (Prod.mk.inj heq).2
    rw [hzero counter e₀ he₀, hlinks] at hmargin
    simp only [Counter.supporters, List.filter_nil, List.map_nil,
      List.length_nil] at hmargin ⊢
    omega

/-- Two toggles of one user leave the number of likes of a content at the
number of its likers. -/
theorem counters_follow_relations_sample :
    World.sample.database.IsCovered ∧
      ∀ e ∈ Counter.contentLikes.tally (World.sample.after World.sampleRun).database,
        e.2 = (Counter.contentLikes.supporters e.1
          (World.sample.after World.sampleRun).database.links).length := by
  have hcovered : World.sample.database.IsCovered := by
    intro counter
    cases counter <;> decide
  obtain ⟨-, -, -, -, hcount⟩ :=
    counters_follow_relations World.sample World.sampleRun hcovered
  refine ⟨hcovered, fun e he => ?_⟩
  have hzero : ∀ counter : Counter, ∀ e ∈ counter.tally World.sample.database, e.2 = 0 := by
    intro counter
    cases counter <;> decide
  exact (hcount rfl rfl hzero .contentLikes e he).2

end Community
