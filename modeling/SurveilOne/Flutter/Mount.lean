import SurveilOne.Flutter.Navigator

/-!
# State objects behind routes

The page of a route may have a `State` object.  `mount` is what happens to the
objects, kept by the keys of their routes, when the stack changes: a route that
has come gets a new object and the object of a route that is gone is disposed.  A
disposed object stays, for its operations may still be outstanding.

`Evolves` says how two navigators of a run are related: a mounted route was there
before, with the same view of its page, or it is new and has a fresh key.  `Tracks`
is the invariant that the objects which are alive are those of the mounted routes.
-/

namespace Flutter

namespace Navigator

variable {P C V : Type}

def mount (create : P → Option C) (dispose : C → C) (n m : Navigator P)
    (states : Nat → Option C) : Nat → Option C := fun k =>
  match n.find? k, m.find? k with
  | none, some r => create r.page
  | some _, none => (states k).map dispose
  | _, _ => states k

section Find

variable {n : Navigator P} {k : Nat} {r : Route P}

theorem mem_of_find? (h : n.find? k = some r) : r ∈ n.mountedRoutes ∧ r.key = k :=
  ⟨List.mem_of_find?_eq_some h, by simpa using List.find?_some h⟩

theorem WellKeyed.find?_eq_none (h : n.WellKeyed) (hk : n.nextKey ≤ k) : n.find? k = none := by
  cases hr : n.find? k with
  | none => rfl
  | some r =>
    obtain ⟨hmem, hkey⟩ := mem_of_find? hr
    have hlt := h.fresh r hmem
    omega

end Find

section Mount

variable {create : P → Option C} {dispose : C → C} {n m : Navigator P} {states : Nat → Option C}
  {k : Nat} {r : Route P}

theorem mount_new (hn : n.find? k = none) (hm : m.find? k = some r) :
    n.mount create dispose m states k = create r.page := by
  simp only [mount, hn, hm]

theorem mount_gone (hn : n.find? k = some r) (hm : m.find? k = none) :
    n.mount create dispose m states k = (states k).map dispose := by
  simp only [mount, hn, hm]

theorem mount_absent (hn : n.find? k = none) (hm : m.find? k = none) :
    n.mount create dispose m states k = states k := by
  simp only [mount, hn, hm]

theorem mount_kept {r' : Route P} (hn : n.find? k = some r) (hm : m.find? k = some r') :
    n.mount create dispose m states k = states k := by
  simp only [mount, hn, hm]

/-- An object after `mount` was there before, is a new one, or has just been
disposed. -/
theorem mount_cases {c : C} (h : n.mount create dispose m states k = some c) :
    states k = some c ∨
    (∃ r, n.find? k = none ∧ m.find? k = some r ∧ create r.page = some c) ∨
    ∃ r c', n.find? k = some r ∧ states k = some c' ∧ c = dispose c' := by
  cases hn : n.find? k with
  | none =>
    cases hm : m.find? k with
    | none => exact Or.inl ((mount_absent hn hm).symm.trans h)
    | some r => exact Or.inr (Or.inl ⟨r, rfl, rfl, (mount_new hn hm).symm.trans h⟩)
  | some r =>
    cases hm : m.find? k with
    | none =>
      rw [mount_gone hn hm] at h
      obtain ⟨c', hc', rfl⟩ := Option.map_eq_some_iff.mp h
      exact Or.inr (Or.inr ⟨r, c', rfl, hc', rfl⟩)
    | some r' => exact Or.inl ((mount_kept hn hm).symm.trans h)

end Mount

/-! ## From one navigator to the next -/

structure Evolves (view : P → V) (New : P → Prop) (n m : Navigator P) : Prop where
  nextKey : n.nextKey ≤ m.nextKey
  route : ∀ r ∈ m.mountedRoutes,
    (∃ r' ∈ n.mountedRoutes, r'.key = r.key ∧ view r'.page = view r.page) ∨
      n.nextKey ≤ r.key ∧ New r.page

namespace Evolves

variable {view : P → V} {New : P → Prop} {n m l : Navigator P}

theorem of_subset (hk : n.nextKey ≤ m.nextKey) (h : m.mountedRoutes ⊆ n.mountedRoutes) :
    Evolves view New n m :=
  ⟨hk, fun r hr => Or.inl ⟨r, h hr, rfl, rfl⟩⟩

theorem refl (n : Navigator P) : Evolves view New n n := of_subset (Nat.le_refl _) fun _ h => h

/-- A change that brings no route, followed by any other. -/
theorem after (h : Evolves view (fun _ => False) n m) (h' : Evolves view New m l) :
    Evolves view New n l := by
  refine ⟨Nat.le_trans h.nextKey h'.nextKey, fun r hr => ?_⟩
  rcases h'.route r hr with ⟨r', hr', hkey, hview⟩ | ⟨hkey, hnew⟩
  · rcases h.route r' hr' with ⟨r₀, hr₀, hkey₀, hview₀⟩ | ⟨-, hfalse⟩
    · exact Or.inl ⟨r₀, hr₀, hkey₀.trans hkey, hview₀.trans hview⟩
    · exact hfalse.elim
  · exact Or.inr ⟨Nat.le_trans h.nextKey hkey, hnew⟩

theorem pop (n : Navigator P) : Evolves view New n n.pop :=
  of_subset (Nat.le_of_eq (pop_nextKey n).symm) (pop_perm n).subset

theorem endTransition (n : Navigator P) (k : Nat) : Evolves view New n (n.endTransition k) := by
  refine of_subset (Nat.le_refl _) fun r hr => ?_
  rcases List.mem_append.mp hr with hr | hr
  · exact List.mem_append_left _ hr
  · exact List.mem_append_right _ (List.mem_of_mem_filter hr)

theorem push (n : Navigator P) {p : P} (hp : New p) : Evolves view New n (n.push p) := by
  refine ⟨Nat.le_succ _, fun r hr => ?_⟩
  rcases List.mem_cons.mp hr with rfl | hr
  · exact Or.inr ⟨Nat.le_refl _, hp⟩
  · exact Or.inl ⟨r, hr, rfl, rfl⟩

theorem pushReplacement (n : Navigator P) {p : P} (hp : New p) :
    Evolves view New n (n.pushReplacement p) := by
  rw [Navigator.pushReplacement]
  split
  · exact refl n
  · exact (pop n).after (push n.pop hp)

theorem pushAndRemoveUntil (n : Navigator P) {p : P} (hp : New p) :
    Evolves view New n (n.pushAndRemoveUntil p) := by
  refine ⟨Nat.le_succ _, fun r hr => ?_⟩
  rcases List.mem_cons.mp hr with rfl | hr
  · exact Or.inr ⟨Nat.le_refl _, hp⟩
  · exact Or.inl ⟨r, hr, rfl, rfl⟩

/-- A page is rebuilt and its view stays. -/
theorem update {k : Nat} {f : P → P}
    (hf : ∀ r ∈ n.mountedRoutes, r.key = k → view (f r.page) = view r.page) :
    Evolves view New n (n.update k f) := by
  refine ⟨Nat.le_refl _, fun r hr => Or.inl ?_⟩
  rw [update_mountedRoutes] at hr
  obtain ⟨r', hr', rfl⟩ := List.mem_map.mp hr
  refine ⟨r', hr', (Route.update_key k f r').symm, ?_⟩
  rw [Route.update]
  split
  · exact (hf r' hr' ‹_›).symm
  · rfl

/-- A route that was not there before is new. -/
theorem new_of_find? (h : Evolves view New n m) {k : Nat} {r : Route P} (hn : n.find? k = none)
    (hm : m.find? k = some r) : New r.page := by
  obtain ⟨hmem, rfl⟩ := mem_of_find? hm
  rcases h.route r hmem with ⟨r', hr', hkey, -⟩ | ⟨-, hnew⟩
  · exact absurd hkey (by simpa using List.find?_eq_none.mp hn r' hr')
  · exact hnew

/-- A key that has been given out and is not mounted is never mounted again. -/
theorem find?_eq_none (h : Evolves view New n m) {k : Nat} (hk : k < n.nextKey)
    (hn : n.find? k = none) : m.find? k = none := by
  cases hm : m.find? k with
  | none => rfl
  | some r =>
    obtain ⟨hmem, rfl⟩ := mem_of_find? hm
    rcases h.route r hmem with ⟨r', hr', hkey, -⟩ | ⟨hkey, -⟩
    · exact absurd hkey (by simpa using List.find?_eq_none.mp hn r' hr')
    · exact absurd hk (Nat.not_lt.mpr hkey)

/-- An object of a key that has been given out stays or is disposed. -/
theorem mount_given (h : Evolves view New n m) {create : P → Option C} {dispose : C → C}
    {states : Nat → Option C} {k : Nat} {c : C} (hk : k < n.nextKey) (hc : states k = some c) :
    n.mount create dispose m states k = some c ∨
      n.mount create dispose m states k = some (dispose c) := by
  cases hn : n.find? k with
  | none =>
    rw [mount_absent hn (h.find?_eq_none hk hn)]
    exact Or.inl hc
  | some r =>
    cases hm : m.find? k with
    | none =>
      rw [mount_gone hn hm, hc]
      exact Or.inr rfl
    | some r' =>
      rw [mount_kept hn hm]
      exact Or.inl hc

end Evolves

/-! ## The objects of the mounted routes -/

/-- `Fits p c` says that `c` is what a mounted page `p` has for an object. -/
structure Tracks (Fits : P → Option C → Prop) (Alive : C → Prop) (n : Navigator P)
    (states : Nat → Option C) : Prop where
  mounted : ∀ r ∈ n.mountedRoutes, Fits r.page (states r.key)
  gone : ∀ k c, n.find? k = none → states k = some c → ¬ Alive c

section Tracks

variable {Fits : P → Option C → Prop} {Alive : C → Prop} {n m : Navigator P}
  {states : Nat → Option C}

/-- Where a fitting object is alive, an object is alive exactly as long as its route
is mounted. -/
theorem Tracks.alive_iff (h : Tracks Fits Alive n states)
    (hfits : ∀ p c, Fits p (some c) → Alive c) {k : Nat} {c : C} (hc : states k = some c) :
    Alive c ↔ ∃ r ∈ n.mountedRoutes, r.key = k := by
  cases hr : n.find? k with
  | none =>
    refine iff_of_false (h.gone k c hr hc) ?_
    rintro ⟨r, hmem, hkey⟩
    exact absurd hkey (by simpa using List.find?_eq_none.mp hr r hmem)
  | some r =>
    obtain ⟨hmem, rfl⟩ := mem_of_find? hr
    exact iff_of_true (hfits r.page c (hc ▸ h.mounted r hmem)) ⟨r, hmem, rfl⟩

theorem Tracks.mount {view : P → V} {New : P → Prop} {create : P → Option C} {dispose : C → C}
    (h : Tracks Fits Alive n states) (hn : n.WellKeyed) (hm : m.WellKeyed)
    (he : Evolves view New n m) (hview : ∀ p q c, view p = view q → Fits p c → Fits q c)
    (hnew : ∀ p, New p → Fits p (create p)) (hdispose : ∀ c, ¬ Alive (dispose c)) :
    Tracks Fits Alive m (n.mount create dispose m states) := by
  refine ⟨fun r hr => ?_, fun k c hk hc => ?_⟩
  · have hfind : m.find? r.key = some r := hm.find?_eq hr
    rcases he.route r hr with ⟨r', hr', hkey, hsame⟩ | ⟨hkey, hpage⟩
    · have hfind' : n.find? r.key = some r' := hkey ▸ hn.find?_eq hr'
      rw [mount_kept hfind' hfind, ← hkey]
      exact hview _ _ _ hsame (h.mounted r' hr')
    · rw [mount_new (hn.find?_eq_none hkey) hfind]
      exact hnew _ hpage
  · rcases mount_cases hc with hold | ⟨r, -, hr, -⟩ | ⟨r, c', hr, hc', rfl⟩
    · cases hr : n.find? k with
      | none => exact h.gone k c hr hold
      | some r =>
        rw [mount_gone hr hk] at hc
        obtain ⟨c', -, rfl⟩ := Option.map_eq_some_iff.mp hc
        exact hdispose c'
    · rw [hk] at hr
      cases hr
    · exact hdispose c'

/-- An object of a mounted route is replaced by one that fits as well. -/
theorem Tracks.replace (h : Tracks Fits Alive n states) {k : Nat} {c c' : C}
    (hc : states k = some c) (hfits : ∀ p, Fits p (some c) → Fits p (some c'))
    (halive : Alive c' → Alive c) : Tracks Fits Alive n (Function.update states k (some c')) := by
  refine ⟨fun r hr => ?_, fun j d hj hd => ?_⟩
  · have hfit := h.mounted r hr
    by_cases hk : r.key = k
    · subst hk
      rw [Function.update_self]
      exact hfits _ (hc ▸ hfit)
    · rwa [Function.update_of_ne hk]
  · by_cases hk : j = k
    · subst hk
      rw [Function.update_self] at hd
      obtain rfl := Option.some.inj hd
      exact fun hal => h.gone j c hj hc (halive hal)
    · rw [Function.update_of_ne hk] at hd
      exact h.gone j d hj hd

end Tracks

end Navigator

end Flutter
