import Community.Proofs.Json.Record
import Mathlib.Data.List.Forall2

/-!
# A text is decoded as what it was written from, or not at all

Not every text that was written can be decoded: numbers may be too large, and containers may
lie too deep. But what is decoded is right, and for that nothing has to be known about sizes:

> `Faithful a`: whatever is decoded from the text of `a` is `a`.

A record is followed member by member (`Fields.YieldsOnly`), and a member that is left out
may be one that stands for no value. A record that shares its object with an inner one is
decoded in two parts, each of which sees its own members only (`YieldsOnly.flattened`).
-/

namespace Community.Json

variable {α β : Type}

/-- From the text of `j` the decoder gets `a` or nothing. -/
def YieldsOnly (inner : Decoder α) (j : Json) (a : α) : Prop :=
  ∃ d, ReadAs j d ∧ (d = .null → j = .null) ∧ ∀ m b, inner m d = .ok b → b = a

/-- Whatever is decoded from the text of `a` is `a`. -/
def Faithful [Encode α] [Decode α] (a : α) : Prop :=
  YieldsOnly decode (encode a) a

/-- What is parsed from a rendered JSON is the one value that it yields. -/
theorem YieldsOnly.eq_of_parse [Decode α] {j : Json} {a b : α} (h : YieldsOnly decode j a)
    (hparse : parse j.render = .ok b) : b = a := by
  obtain ⟨d, hread, -, honly⟩ := h
  rw [parse, hread.read_render] at hparse
  dsimp only at hparse
  split at hparse
  · cases hparse
  · next b' hdecode =>
    cases hparse
    exact honly _ _ hdecode

/-- What is parsed from the JSON of a value is the value. -/
theorem Faithful.eq_of_parse [Encode α] [Decode α] {a b : α} (h : Faithful a)
    (hparse : parse (encode a).render = .ok b) : b = a :=
  YieldsOnly.eq_of_parse h hparse

/-! ## Single values -/

theorem unwanted_ne_ok (d : Draft) (wanted : String) (a : α) :
    unwanted d wanted ≠ .ok a := by
  unfold unwanted refuse
  intro h
  split at h <;> try cases h
  split at h <;> cases h

/-- A number can be read as itself only. -/
theorem YieldsOnly.int {lo hi n : Int} {wanted : String} :
    YieldsOnly (decodeInt lo hi wanted) (.int n) n := by
  refine ⟨_, ReadAs.int n, nofun, fun m b h => ?_⟩
  unfold decodeInt at h
  dsimp only at h
  split at h
  · next i hi =>
    split at h
    · cases h
      exact Draft.eq_of_value?_ofInt hi
    · cases h
  · exact absurd h (unwanted_ne_ok _ _ _)

theorem YieldsOnly.nat (n : Nat) : YieldsOnly decodeWord64 (.int n) n := by
  obtain ⟨d, hread, hnull, honly⟩ := @YieldsOnly.int 0 Text.word64Max n "u64"
  refine ⟨d, hread, hnull, fun m b h => ?_⟩
  unfold decodeWord64 at h
  cases hint : decodeInt 0 Text.word64Max "u64" m d with
  | error f =>
    rw [hint] at h
    cases h
  | ok i =>
    rw [hint] at h
    cases h
    rw [honly m i hint]
    exact Int.toNat_natCast n

/-- A text can be read as itself only. -/
theorem YieldsOnly.str (s : String) : YieldsOnly decodeString (.str s) s := by
  refine ⟨_, ReadAs.str s, nofun, fun m b h => ?_⟩
  cases h
  rfl

/-- A value that may be missing, and is never written as one that is. -/
theorem YieldsOnly.option [Encode α] {inner : Decoder β} {o : Option α} {f : α → β}
    (h : ∀ a, o = some a → YieldsOnly inner (encode a) (f a) ∧ encode a ≠ .null) :
    YieldsOnly (decodeOption inner) (encode o) (o.map f) := by
  cases o with
  | none =>
    refine ⟨_, ReadAs.null, fun _ => rfl, fun m b h => ?_⟩
    cases h
    rfl
  | some a =>
    obtain ⟨⟨d, hread, hnull, honly⟩, hne⟩ := h a rfl
    refine ⟨d, hread, hnull, fun m b hb => ?_⟩
    unfold decodeOption at hb
    split at hb
    · exact absurd (hnull rfl) hne
    · cases hinner : inner m d with
      | error fault =>
        rw [hinner] at hb
        cases hb
      | ok a' =>
        rw [hinner] at hb
        cases hb
        rw [honly m a' hinner]
        rfl

/-- A value that may be absent comes back, unless it is written as null itself. -/
theorem Faithful.option [Encode α] [Decode α] {o : Option α}
    (h : ∀ a, o = some a → Faithful a ∧ encode a ≠ .null) : Faithful o := by
  have hsame : YieldsOnly decode (encode o) (o.map id) := YieldsOnly.option h
  rwa [Option.map_id] at hsame

/-- A decoder may be chosen from several when the text is there. -/
theorem YieldsOnly.choose {ι : Type} {inner : ι → Decoder α} {j : Json} {a : α}
    (pick : Mode → Draft → ι) (i : ι) (h : ∀ i, YieldsOnly (inner i) j a) :
    YieldsOnly (fun m d => inner (pick m d) m d) j a := by
  obtain ⟨d, hread, hnull, -⟩ := h i
  refine ⟨d, hread, hnull, fun m b hb => ?_⟩
  obtain ⟨d', hread', -, honly⟩ := h (pick m d)
  obtain rfl := hread.unique hread'
  exact honly m b hb

/-! ## Lists -/

/-- A list of items can be read, item by item, as their values only. -/
theorem YieldsOnly.items {inner : Decoder α} {js : List Json} {as : List α}
    (h : List.Forall₂ (YieldsOnly inner) js as) :
    ∃ ps : List (Json × Draft), ps.map Prod.fst = js ∧ (∀ p ∈ ps, ReadAs p.1 p.2) ∧
      ∀ m closed i bs, decodeItems inner m closed i (ps.map Prod.snd) =
        .ok bs → bs = as := by
  induction h with
  | nil =>
    refine ⟨[], rfl, fun _ hp => absurd hp List.not_mem_nil, fun m closed i bs h => ?_⟩
    rw [List.map_nil, decodeItems] at h
    split at h <;> cases h
    rfl
  | @cons j a js as hfirst _ ih =>
    obtain ⟨d, hread, -, honly⟩ := hfirst
    obtain ⟨ps, rfl, hreads, hrest⟩ := ih
    refine ⟨(j, d) :: ps, rfl, ?_, fun m closed i bs h => ?_⟩
    · intro p hp
      rcases List.mem_cons.mp hp with rfl | hp
      · exact hread
      · exact hreads p hp
    · rw [List.map_cons, decodeItems] at h
      split at h
      · cases h
      · next b hb =>
        split at h
        · cases h
        · next bs' hbs =>
          cases h
          rw [honly m b hb, hrest m closed (i + 1) bs' hbs]

/-- So can the list that is written around them. -/
theorem YieldsOnly.list {inner : Decoder α} {js : List Json} {as : List α}
    (h : List.Forall₂ (YieldsOnly inner) js as) (hopens : ∀ j ∈ js, Opens j) :
    YieldsOnly (decodeList inner) (.arr js) as := by
  obtain ⟨ps, rfl, hreads, honly⟩ := YieldsOnly.items h
  refine ⟨_, ReadAs.arr hreads fun p hp => hopens p.1 (List.mem_map_of_mem hp), nofun, ?_⟩
  intro m bs hbs
  unfold decodeList at hbs
  dsimp only at hbs
  split at hbs
  · cases hbs
  · exact honly _ _ _ _ hbs

/-! ## Records -/

/-- What a part of a record asks for: members that are there, with the draft that the text of
each is read as, and names of members that are left out. Wherever these are found so, nothing
but `a` is built. -/
structure Fields.Asks (x : Fields α) (ps : List Part) (missing : List String) (a : α) :
    Prop where
  names : (ps.map Part.name ++ missing).Perm x.names
  read : ∀ p ∈ ps, ReadAs p.value p.draft
  only : ∀ (m : Mode) (all : List (Option String × Draft)) (i : Nat) (b : α),
    (∀ p ∈ ps, ∃ j, findMember? p.name 0 all = some (j, p.draft)) →
    (∀ name ∈ missing, findMember? name 0 all = none) →
    x.build m (.ofObject all) i = .ok b → b = a

/-- From the members `ms` the record `a` is built or none. -/
def Fields.YieldsOnly (x : Fields α) (ms : List (String × Json)) (a : α) : Prop :=
  ∃ ps missing, ps.map Part.written = ms ∧ x.Asks ps missing a

/-- What is settled well was built well. -/
theorem settle_eq_ok {names ending : Option Placed} {built : Except Placed α} {a : α}
    (h : settle names ending built = .ok a) : built = .ok a := by
  cases built with
  | ok b =>
    cases names <;> cases ending <;> cases h
    rfl
  | error e => cases names <;> cases ending <;> cases h

/-- Among members of different names, those that are asked for are found as
they are asked for. -/
theorem Fields.Asks.eq_of_build {x : Fields α} {ps all : List Part} {missing : List String}
    {a b : α} {m : Mode} (h : x.Asks ps missing a) (hsub : ps ⊆ all)
    (hnodup : (all.map Part.name).Nodup)
    (hmissing : ∀ name ∈ missing, name ∉ all.map Part.name)
    (hbuild : x.build m (.ofObject (all.map Part.read)) 0 = .ok b) : b = a :=
  h.only m _ 0 b (fun _ hp => findMember?_read hnodup (hsub hp) 0)
    (fun name hname => findMember?_eq_none (hmissing name hname) 0) hbuild

namespace Fields.YieldsOnly

theorem pure (a : α) : (Fields.pure a).YieldsOnly [] a := by
  refine ⟨[], [], rfl, .nil, fun _ hp => absurd hp List.not_mem_nil,
    fun m all i b _ _ h => ?_⟩
  cases h
  rfl

/-- A member that is written. -/
theorem one (name : String) {inner : Decoder α} {ifUnnamed ifMissing : Option α} {j : Json}
    {a : α} (ha : Json.YieldsOnly inner j a) :
    (Fields.one name inner ifUnnamed ifMissing).YieldsOnly [(name, j)] a := by
  obtain ⟨d, hread, -, honly⟩ := ha
  refine ⟨[⟨name, j, d⟩], [], rfl, .refl _, fun p hp => ?_, fun m all i b hall _ hb => ?_⟩
  · rw [List.mem_singleton.mp hp]
    exact hread
  · obtain ⟨k, hfind⟩ := hall ⟨name, j, d⟩ (List.mem_singleton_self _)
    simp only [Fields.one, Members.ofObject, hfind] at hb
    split at hb
    · next hdecode =>
      cases hb
      exact honly m _ hdecode
    · cases hb

/-- A member that is left out, because its value stands for an absent one. -/
theorem leftOut (name : String) {inner : Decoder α} {a : α} :
    (Fields.one name inner (some a) none).YieldsOnly [] a := by
  refine ⟨[], [name], rfl, .refl _, fun _ hp => absurd hp List.not_mem_nil, ?_⟩
  intro m all i b _ hmissing hb
  have hfind := hmissing name (List.mem_singleton_self _)
  simp only [Fields.one, Members.ofObject, hfind, if_pos] at hb
  cases hb
  rfl

/-- Some members, and then others. -/
theorem seq {f : Fields (β → α)} {x : Fields β} {ms ns : List (String × Json)} {g : β → α}
    {b : β} (hf : f.YieldsOnly ms g) (hx : x.YieldsOnly ns b) :
    (f.seq x).YieldsOnly (ms ++ ns) (g b) := by
  obtain ⟨ps, missing, rfl, hps⟩ := hf
  obtain ⟨qs, more, rfl, hqs⟩ := hx
  refine ⟨ps ++ qs, missing ++ more, List.map_append, names_append hps.names hqs.names, ?_,
    fun m all i a hall hmissing ha => ?_⟩
  · intro p hp
    exact (List.mem_append.mp hp).elim (hps.read p) (hqs.read p)
  · -- both parts are built, each from what it asks for
    simp only [Fields.seq] at ha
    split at ha
    · next g' b' hg hb =>
      cases ha
      rw [hps.only m all i g' (fun p hp => hall p (List.mem_append_left _ hp))
          (fun n hn => hmissing n (List.mem_append_left _ hn)) hg,
        hqs.only m all _ b' (fun p hp => hall p (List.mem_append_right _ hp))
          (fun n hn => hmissing n (List.mem_append_right _ hn)) hb]
    · cases ha
    · cases ha
    · cases ha

section Member

variable [Decode β] {f : Fields (β → α)} {ms : List (String × Json)} {g : β → α} {b : β}

/-- One more member of a type of its own. -/
theorem memberAs {j : Json} (hf : f.YieldsOnly ms g) (name : String)
    (hb : Json.YieldsOnly Decode.decode j b) :
    (f.seq (field name)).YieldsOnly (ms ++ [(name, j)]) (g b) :=
  hf.seq (.one name hb)

/-- One field more, with the member that is written for it. -/
theorem member [Encode β] (hf : f.YieldsOnly ms g) (name : String) (hb : Faithful b) :
    (f.seq (field name)).YieldsOnly (ms ++ [(name, encode b)]) (g b) :=
  hf.memberAs name hb

end Member

/-- From an object that was written nothing but its record is decoded. -/
theorem decode {x : Fields α} {ms : List (String × Json)} {a : α} (h : x.YieldsOnly ms a)
    (hnodup : x.names.Nodup) (wanted : String) :
    Json.YieldsOnly (x.decode wanted) (.obj ms) a := by
  obtain ⟨ps, missing, rfl, hasks⟩ := h
  obtain ⟨hdistinct, -, hapart⟩ := List.nodup_append.mp (hasks.names.nodup_iff.mpr hnodup)
  refine ⟨_, ReadAs.obj hasks.read, nofun, fun m b hb => ?_⟩
  unfold Fields.decode at hb
  dsimp only at hb
  split at hb
  · cases hb
  · exact hasks.eq_of_build (fun _ hp => hp) hdistinct
      (fun name hname hmem => hapart name hmem name hname rfl) (settle_eq_ok hb)

end Fields.YieldsOnly

/-! ## A record around another -/

/-- Members `ps` of an inner record and `qs` of the record of names `outer` around
it, with the names that each of them leaves out, share an object without being
taken for one another. -/
structure Apart (ps qs : List Part) (missing more outer : List String) : Prop where
  distinct : ((ps ++ qs).map Part.name).Nodup
  inside : ∀ name ∈ missing, name ∉ ps.map Part.name
  outside : ∀ name ∈ more, name ∉ (ps ++ qs).map Part.name
  kept : ∀ p ∈ ps, p.name ∉ outer
  taken : ∀ q ∈ qs, q.name ∈ outer

theorem apart_of_nodup {ps qs : List Part} {missing more inner outer : List String}
    (hps : (ps.map Part.name ++ missing).Perm inner)
    (hqs : (qs.map Part.name ++ more).Perm outer) (hnodup : (inner ++ outer).Nodup) :
    Apart ps qs missing more outer := by
  obtain ⟨hp, hq, hapart⟩ := List.nodup_append.mp ((hps.append hqs).nodup_iff.mpr hnodup)
  obtain ⟨hpnames, -, hpmissing⟩ := List.nodup_append.mp hp
  obtain ⟨hqnames, -, hqmissing⟩ := List.nodup_append.mp hq
  constructor
  · rw [List.map_append]
    refine List.nodup_append.mpr ⟨hpnames, hqnames, fun n hn n' hn' => ?_⟩
    exact hapart n (List.mem_append_left _ hn) n' (List.mem_append_left _ hn')
  · exact fun n hn hmem => hpmissing n hmem n hn rfl
  · intro n hn hmem
    rw [List.map_append] at hmem
    rcases List.mem_append.mp hmem with hmem | hmem
    · exact hapart n (List.mem_append_left _ hmem) n (List.mem_append_right _ hn) rfl
    · exact hqmissing n hmem n hn rfl
  · exact fun p hp hmem =>
      hapart p.name (List.mem_append_left _ (List.mem_map_of_mem hp)) p.name
        (hqs.mem_iff.mpr hmem) rfl
  · exact fun q hq => hqs.mem_iff.mp (List.mem_append_left _ (List.mem_map_of_mem hq))

/-- What the outer record leaves over are the members of the inner one. -/
theorem Apart.filter_append {ps qs : List Part} {missing more outer : List String}
    (h : Apart ps qs missing more outer) :
    ((ps ++ qs).filter fun p => !outer.contains p.name) = ps := by
  rw [List.filter_append, List.filter_eq_self.mpr, List.filter_eq_nil_iff.mpr,
    List.append_nil]
  · intro q hq
    simp [h.taken q hq]
  · intro p hp
    simp [h.kept p hp]

/-- The members that an outer record leaves over are told by their names. -/
theorem filter_read {ps : List Part} {outer : List String}
    {keep : Option String × Draft → Bool}
    (hkeep : ∀ p : Part, keep p.read = !outer.contains p.name) :
    (ps.map Part.read).filter keep =
      (ps.filter fun p => !outer.contains p.name).map Part.read := by
  rw [List.filter_map]
  exact congrArg (List.map Part.read) (List.filter_congr fun p _ => hkeep p)

/-- The members of a record and those of the record around it, all in one object. -/
theorem YieldsOnly.flattened {γ : Type} {outer : Fields α} {inner : Fields β}
    {join : α → β → γ} {ms ns : List (String × Json)} {a : α} {b : β} (wanted : String)
    (hinner : inner.YieldsOnly ms b) (houter : outer.YieldsOnly ns a)
    (hnodup : (inner.names ++ outer.names).Nodup) :
    YieldsOnly (decodeFlattened wanted outer inner join) (.obj (ms ++ ns)) (join a b) := by
  obtain ⟨ps, missing, rfl, hps⟩ := hinner
  obtain ⟨qs, more, rfl, hqs⟩ := houter
  have hapart := apart_of_nodup hps.names hqs.names hnodup
  have hread : ∀ p ∈ ps ++ qs, ReadAs p.value p.draft := fun p hmem =>
    (List.mem_append.mp hmem).elim (hps.read p) (hqs.read p)
  have hpnames : (ps.map Part.name).Nodup :=
    hapart.distinct.sublist ((List.sublist_append_left ps qs).map Part.name)
  refine ⟨.obj ((ps ++ qs).map Part.read) true, ?_, nofun, fun m c hc => ?_⟩
  · rw [← List.map_append]
    exact ReadAs.obj hread
  unfold decodeFlattened at hc
  dsimp only at hc
  split at hc
  · cases hc
  · next m' _ =>
    split at hc
    · cases hc
    · next a' ha =>
      rw [hqs.eq_of_build (List.subset_append_right ps qs) hapart.distinct hapart.outside
        (settle_eq_ok ha), filter_read fun _ => rfl, hapart.filter_append] at hc
      split at hc
      · cases hc
      · next b' hb =>
        cases hc
        rw [hps.eq_of_build (fun _ hp => hp) hpnames hapart.inside (settle_eq_ok hb)]

end Community.Json
