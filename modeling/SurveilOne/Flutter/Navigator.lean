import Mathlib.Data.List.Nodup

/-!
# The stack of routes

A `Navigator` holds its routes, the topmost first, each under a key of its own.
A route that has been removed stays mounted until its exit transition ends, so
the removed ones are kept beside the stack until then.

`WellKeyed` says that no two mounted routes share a key.  Every operation keeps
it, and on a well keyed stack the removal of the topmost route is the removal of
one given route exactly when that route is the topmost one.
-/

namespace Flutter

structure Route (P : Type) where
  key : Nat
  page : P

structure Navigator (P : Type) where
  /-- The topmost route first. -/
  routes : List (Route P)
  /-- The removed routes whose exit transitions still run. -/
  leaving : List (Route P)
  nextKey : Nat

variable {P : Type}

/-- Rebuild the page under key `k`. -/
def Route.update (k : Nat) (f : P → P) (r : Route P) : Route P :=
  if r.key = k then { r with page := f r.page } else r

@[simp] theorem Route.update_key (k : Nat) (f : P → P) (r : Route P) : (r.update k f).key = r.key := by
  rw [update]
  split <;> rfl

namespace Navigator

def home (p : P) : Navigator P := { routes := [⟨0, p⟩], leaving := [], nextKey := 1 }

def push (n : Navigator P) (p : P) : Navigator P :=
  { n with routes := ⟨n.nextKey, p⟩ :: n.routes, nextKey := n.nextKey + 1 }

/-- `pop`.  With no route left the call throws and changes nothing. -/
def pop (n : Navigator P) : Navigator P :=
  match n.routes with
  | [] => n
  | r :: rest => { n with routes := rest, leaving := r :: n.leaving }

/-- `pushReplacement`.  It throws as `pop` does. -/
def pushReplacement (n : Navigator P) (p : P) : Navigator P :=
  if n.routes.isEmpty then n else n.pop.push p

/-- `pushAndRemoveUntil` with the predicate that is always false. -/
def pushAndRemoveUntil (n : Navigator P) (p : P) : Navigator P :=
  { routes := [⟨n.nextKey, p⟩], leaving := n.routes ++ n.leaving, nextKey := n.nextKey + 1 }

/-- The exit transition of a removed route ends, which disposes it. -/
def endTransition (n : Navigator P) (k : Nat) : Navigator P :=
  { n with leaving := n.leaving.filter (·.key ≠ k) }

def update (n : Navigator P) (k : Nat) (f : P → P) : Navigator P :=
  { n with routes := n.routes.map (Route.update k f), leaving := n.leaving.map (Route.update k f) }

/-- Every mounted route. -/
def mountedRoutes (n : Navigator P) : List (Route P) := n.routes ++ n.leaving

/-- The route under a key, as long as it is mounted. -/
def find? (n : Navigator P) (k : Nat) : Option (Route P) := n.mountedRoutes.find? (·.key = k)

/-! ## What the operations leave on the stack -/

@[simp] theorem push_routes (n : Navigator P) (p : P) :
    (n.push p).routes = ⟨n.nextKey, p⟩ :: n.routes := rfl

@[simp] theorem pop_routes (n : Navigator P) : n.pop.routes = n.routes.tail := by
  cases h : n.routes <;> simp [pop, h]

@[simp] theorem pop_nextKey (n : Navigator P) : n.pop.nextKey = n.nextKey := by
  cases h : n.routes <;> simp [pop, h]

theorem pushReplacement_routes {n : Navigator P} (p : P) (h : n.routes ≠ []) :
    (n.pushReplacement p).routes = ⟨n.nextKey, p⟩ :: n.routes.tail := by
  rw [pushReplacement, if_neg (by simpa using h), push_routes, pop_routes, pop_nextKey]

theorem pushReplacement_nextKey {n : Navigator P} (p : P) (h : n.routes ≠ []) :
    (n.pushReplacement p).nextKey = n.nextKey + 1 := by
  rw [pushReplacement, if_neg (by simpa using h)]
  show n.pop.nextKey + 1 = n.nextKey + 1
  rw [pop_nextKey]

theorem pushReplacement_nil {n : Navigator P} (p : P) (h : n.routes = []) :
    n.pushReplacement p = n := by
  rw [pushReplacement, if_pos (by simpa using h)]

@[simp] theorem pushAndRemoveUntil_routes (n : Navigator P) (p : P) :
    (n.pushAndRemoveUntil p).routes = [⟨n.nextKey, p⟩] := rfl

@[simp] theorem endTransition_routes (n : Navigator P) (k : Nat) :
    (n.endTransition k).routes = n.routes := rfl

@[simp] theorem update_routes (n : Navigator P) (k : Nat) (f : P → P) :
    (n.update k f).routes = n.routes.map (Route.update k f) := rfl

/-! ## Properties of every page on the stack -/

def All (Q : P → Prop) (n : Navigator P) : Prop := ∀ r ∈ n.routes, Q r.page

section All

variable {Q : P → Prop} {n : Navigator P}

theorem All.mono {R : P → Prop} (h : ∀ p, Q p → R p) (hn : n.All Q) : n.All R :=
  fun r hr => h r.page (hn r hr)

theorem All.home {p : P} (hp : Q p) : (Navigator.home p).All Q := by
  intro r hr
  obtain rfl := List.mem_singleton.mp hr
  exact hp

theorem All.push {p : P} (hn : n.All Q) (hp : Q p) : (n.push p).All Q := by
  intro r hr
  rcases List.mem_cons.mp hr with rfl | hr
  · exact hp
  · exact hn r hr

theorem All.pop (hn : n.All Q) : n.pop.All Q := by
  intro r hr
  rw [pop_routes] at hr
  exact hn r (List.mem_of_mem_tail hr)

theorem All.pushReplacement {p : P} (hn : n.All Q) (hp : Q p) : (n.pushReplacement p).All Q := by
  rw [Navigator.pushReplacement]
  split
  · exact hn
  · exact hn.pop.push hp

theorem All.pushAndRemoveUntil {p : P} (hp : Q p) : (n.pushAndRemoveUntil p).All Q := by
  intro r hr
  obtain rfl := List.mem_singleton.mp hr
  exact hp

theorem All.endTransition (hn : n.All Q) (k : Nat) : (n.endTransition k).All Q := hn

theorem All.update {k : Nat} {f : P → P} (hn : n.All Q)
    (hf : ∀ r ∈ n.routes, r.key = k → Q r.page → Q (f r.page)) : (n.update k f).All Q := by
  intro r hr
  obtain ⟨r', hr', rfl⟩ := List.mem_map.mp hr
  rw [Route.update]
  split
  · exact hf r' hr' ‹_› (hn r' hr')
  · exact hn r' hr'

theorem pushReplacement_all_iff {p : P} (h : n.routes ≠ []) :
    (n.pushReplacement p).All Q ↔ Q p ∧ ∀ r ∈ n.routes.tail, Q r.page := by
  rw [Navigator.All, pushReplacement_routes p h]
  exact List.forall_mem_cons

end All

/-- A property of navigators that every operation keeps which changes no page. -/
structure Stable (I : Navigator P → Prop) : Prop where
  push : ∀ n p, I n → I (n.push p)
  pop : ∀ n, I n → I n.pop
  pushAndRemoveUntil : ∀ n p, I n → I (n.pushAndRemoveUntil p)
  endTransition : ∀ n k, I n → I (n.endTransition k)

theorem Stable.pushReplacement {I : Navigator P → Prop} (h : Stable I) (n : Navigator P) (p : P)
    (hn : I n) : I (n.pushReplacement p) := by
  rw [Navigator.pushReplacement]
  split
  · exact hn
  · exact h.push _ p (h.pop n hn)

/-! ## Keys -/

structure WellKeyed (n : Navigator P) : Prop where
  nodup : (n.mountedRoutes.map (·.key)).Nodup
  fresh : ∀ r ∈ n.mountedRoutes, r.key < n.nextKey

theorem home_wellKeyed (p : P) : (home p).WellKeyed where
  nodup := List.nodup_singleton 0
  fresh r hr := by
    obtain rfl := List.mem_singleton.mp hr
    exact Nat.zero_lt_one

theorem WellKeyed.of_perm {n m : Navigator P} (h : n.WellKeyed)
    (hp : m.mountedRoutes.Perm n.mountedRoutes) (hk : m.nextKey = n.nextKey) : m.WellKeyed where
  nodup := (hp.map (·.key)).nodup_iff.mpr h.nodup
  fresh r hr := hk ▸ h.fresh r (hp.mem_iff.mp hr)

theorem WellKeyed.push {n : Navigator P} (h : n.WellKeyed) (p : P) : (n.push p).WellKeyed where
  nodup := by
    show (n.nextKey :: n.mountedRoutes.map (·.key)).Nodup
    refine List.nodup_cons.mpr ⟨fun hmem => ?_, h.nodup⟩
    obtain ⟨r, hr, hkey⟩ := List.mem_map.mp hmem
    have hlt := h.fresh r hr
    omega
  fresh r hr := by
    show r.key < n.nextKey + 1
    rcases List.mem_cons.mp hr with rfl | hr
    · exact Nat.lt_succ_self n.nextKey
    · have hlt := h.fresh r hr
      omega

theorem pop_perm (n : Navigator P) : n.pop.mountedRoutes.Perm n.mountedRoutes := by
  cases h : n.routes with
  | nil => rw [pop, h]
  | cons r rest =>
    rw [pop, h]
    simp only [mountedRoutes, h]
    exact List.perm_middle

theorem mem_pushReplacement {n : Navigator P} {r : Route P} (p : P) (hr : r ∈ n.mountedRoutes) :
    r ∈ (n.pushReplacement p).mountedRoutes := by
  rw [pushReplacement]
  split
  · exact hr
  · exact List.mem_cons_of_mem _ ((pop_perm n).mem_iff.mpr hr)

theorem WellKeyed.pop {n : Navigator P} (h : n.WellKeyed) : n.pop.WellKeyed :=
  h.of_perm (pop_perm n) (pop_nextKey n)

/-- Removing everything and pushing is what pushing and then removing the rest
is, as far as the keys go. -/
theorem WellKeyed.pushAndRemoveUntil {n : Navigator P} (h : n.WellKeyed) (p : P) :
    (n.pushAndRemoveUntil p).WellKeyed :=
  (h.push p).of_perm (List.Perm.refl _) rfl

theorem WellKeyed.endTransition {n : Navigator P} (h : n.WellKeyed) (k : Nat) :
    (n.endTransition k).WellKeyed where
  nodup := by
    have hsub : (n.endTransition k).mountedRoutes.Sublist n.mountedRoutes :=
      (List.Sublist.refl n.routes).append List.filter_sublist
    exact (hsub.map (·.key)).nodup h.nodup
  fresh r hr := by
    rcases List.mem_append.mp hr with hr | hr
    · exact h.fresh r (List.mem_append_left _ hr)
    · exact h.fresh r (List.mem_append_right _ (List.mem_of_mem_filter hr))

theorem update_mountedRoutes (n : Navigator P) (k : Nat) (f : P → P) :
    (n.update k f).mountedRoutes = n.mountedRoutes.map (Route.update k f) :=
  List.map_append.symm

theorem update_routes_keys (n : Navigator P) (k : Nat) (f : P → P) :
    (n.update k f).routes.map (·.key) = n.routes.map (·.key) := by
  rw [update_routes, List.map_map]
  exact List.map_congr_left fun r _ => Route.update_key k f r

theorem WellKeyed.update {n : Navigator P} (h : n.WellKeyed) (k : Nat) (f : P → P) :
    (n.update k f).WellKeyed where
  nodup := by
    have hkeys : (Route.key ∘ Route.update k f) = (Route.key : Route P → Nat) :=
      funext (Route.update_key k f)
    rw [update_mountedRoutes, List.map_map, hkeys]
    exact h.nodup
  fresh r hr := by
    rw [update_mountedRoutes] at hr
    obtain ⟨r', hr', rfl⟩ := List.mem_map.mp hr
    rw [Route.update_key]
    exact h.fresh r' hr'

theorem wellKeyed_stable : Stable (WellKeyed : Navigator P → Prop) where
  push _ p h := h.push p
  pop _ h := h.pop
  pushAndRemoveUntil _ p h := h.pushAndRemoveUntil p
  endTransition _ k h := h.endTransition k

theorem WellKeyed.find?_eq {n : Navigator P} (h : n.WellKeyed) {r : Route P}
    (hr : r ∈ n.mountedRoutes) : n.find? r.key = some r := by
  obtain ⟨r', hr'⟩ := Option.ne_none_iff_exists'.mp fun hnone : n.find? r.key = none => by
    simpa using List.find?_eq_none.mp hnone r hr
  have hkey : r'.key = r.key := by simpa using List.find?_some hr'
  rw [hr', List.inj_on_of_nodup_map h.nodup (List.mem_of_find?_eq_some hr') hr hkey]

/-! ## The page a key was given to -/

/-- The key has been given out, and the page under it satisfies `Q` as long as it
is mounted. -/
def Owns (Q : P → Prop) (n : Navigator P) (k : Nat) : Prop :=
  k < n.nextKey ∧ ∀ r ∈ n.mountedRoutes, r.key = k → Q r.page

section Owns

variable {Q : P → Prop} {n : Navigator P} {k : Nat}

theorem Owns.of_perm {m : Navigator P} (h : n.Owns Q k)
    (hp : m.mountedRoutes.Perm n.mountedRoutes) (hk : m.nextKey = n.nextKey) : m.Owns Q k :=
  ⟨hk ▸ h.1, fun r hr => h.2 r (hp.mem_iff.mp hr)⟩

theorem Owns.push (h : n.Owns Q k) (p : P) : (n.push p).Owns Q k := by
  refine ⟨Nat.lt_succ_of_lt h.1, fun r hr hkey => ?_⟩
  rcases List.mem_cons.mp hr with rfl | hr
  · have hlt := h.1
    have hnext : n.nextKey = k := hkey
    omega
  · exact h.2 r hr hkey

theorem Owns.pop (h : n.Owns Q k) : n.pop.Owns Q k := h.of_perm (pop_perm n) (pop_nextKey n)

theorem Owns.pushAndRemoveUntil (h : n.Owns Q k) (p : P) : (n.pushAndRemoveUntil p).Owns Q k :=
  (h.push p).of_perm (List.Perm.refl _) rfl

theorem Owns.endTransition (h : n.Owns Q k) (j : Nat) : (n.endTransition j).Owns Q k := by
  refine ⟨h.1, fun r hr => h.2 r ?_⟩
  rcases List.mem_append.mp hr with hr | hr
  · exact List.mem_append_left _ hr
  · exact List.mem_append_right _ (List.mem_of_mem_filter hr)

theorem Owns.update {j : Nat} {f : P → P} (h : n.Owns Q k) (hf : j = k → ∀ p, Q p → Q (f p)) :
    (n.update j f).Owns Q k := by
  refine ⟨h.1, fun r hr hkey => ?_⟩
  rw [update_mountedRoutes] at hr
  obtain ⟨r', hr', rfl⟩ := List.mem_map.mp hr
  rw [Route.update_key] at hkey
  have hpage := h.2 r' hr' hkey
  rw [Route.update]
  split
  · rename_i hj
    exact hf (hj.symm.trans hkey) _ hpage
  · exact hpage

theorem owns_stable : Stable fun n : Navigator P => n.Owns Q k where
  push _ p h := h.push p
  pop _ h := h.pop
  pushAndRemoveUntil _ p h := h.pushAndRemoveUntil p
  endTransition _ j h := h.endTransition j

end Owns

/-! ## Which route a pop removes -/

theorem WellKeyed.routes_nodup {n : Navigator P} (h : n.WellKeyed) :
    (n.routes.map (·.key)).Nodup := by
  have hall := h.nodup
  rw [mountedRoutes, List.map_append] at hall
  exact (List.nodup_append.mp hall).1

/-- A pop removes the route under `k` and no other exactly when the topmost
route, if there is one, is that route. -/
theorem WellKeyed.pop_removes_iff {n : Navigator P} (h : n.WellKeyed) (k : Nat) :
    n.pop.routes = n.routes.filter (·.key ≠ k) ↔ ∀ r, n.routes.head? = some r → r.key = k := by
  rw [pop_routes]
  have hnodup := h.routes_nodup
  cases hroutes : n.routes with
  | nil => simp
  | cons r rest =>
    rw [hroutes] at hnodup
    obtain ⟨hhead, -⟩ := List.nodup_cons.mp hnodup
    rw [List.tail_cons, List.head?_cons]
    constructor
    · intro heq r' hr'
      obtain rfl := Option.some.inj hr'
      by_contra hne
      have hmem : r ∈ (r :: rest).filter (·.key ≠ k) :=
        List.mem_filter.mpr ⟨List.mem_cons_self, by simpa using hne⟩
      exact hhead (List.mem_map_of_mem (heq ▸ hmem))
    · intro htop
      have hk : r.key = k := htop r rfl
      rw [List.filter_cons_of_neg (by simpa using hk)]
      refine (List.filter_eq_self.mpr fun r' hr' => ?_).symm
      have hne : r'.key ≠ k := fun he =>
        hhead (List.mem_map.mpr ⟨r', hr', he.trans hk.symm⟩)
      simpa using hne

theorem update_routes_filter (n : Navigator P) (k : Nat) (f : P → P) :
    (n.update k f).routes.filter (·.key ≠ k) = n.routes.filter (·.key ≠ k) := by
  rw [update_routes]
  induction n.routes with
  | nil => rfl
  | cons r rest ih =>
    rw [List.map_cons]
    by_cases hk : r.key = k
    · rw [List.filter_cons_of_neg (by simpa using hk), List.filter_cons_of_neg (by simpa using hk)]
      exact ih
    · have hsame : r.update k f = r := if_neg hk
      rw [hsame, List.filter_cons_of_pos (by simpa using hk),
        List.filter_cons_of_pos (by simpa using hk), ih]

/-! ## The bottom of the stack -/

/-- A property of every page on the stack that is not at the bottom. -/
def AboveBottom (Q : P → Prop) (n : Navigator P) : Prop := ∀ r ∈ n.routes.dropLast, Q r.page

section AboveBottom

variable {Q : P → Prop} {n : Navigator P}

theorem AboveBottom.push {p : P} (hn : n.AboveBottom Q) (hp : Q p) : (n.push p).AboveBottom Q := by
  intro r hr
  rw [push_routes] at hr
  cases hroutes : n.routes with
  | nil =>
    rw [hroutes] at hr
    cases hr
  | cons r' rest =>
    rw [List.dropLast_cons_of_ne_nil (hroutes ▸ List.cons_ne_nil r' rest)] at hr
    rcases List.mem_cons.mp hr with rfl | hr
    · exact hp
    · exact hn r hr

theorem AboveBottom.pop (hn : n.AboveBottom Q) : n.pop.AboveBottom Q := by
  intro r hr
  rw [pop_routes] at hr
  cases hroutes : n.routes with
  | nil =>
    rw [hroutes] at hr
    cases hr
  | cons r' rest =>
    rw [hroutes, List.tail_cons] at hr
    refine hn r ?_
    rw [hroutes, List.dropLast_cons_of_ne_nil (fun hnil => by rw [hnil] at hr; cases hr)]
    exact List.mem_cons_of_mem r' hr

theorem AboveBottom.pushReplacement {p : P} (hn : n.AboveBottom Q) (hp : Q p) :
    (n.pushReplacement p).AboveBottom Q := by
  rw [Navigator.pushReplacement]
  split
  · exact hn
  · exact hn.pop.push hp

theorem AboveBottom.pushAndRemoveUntil (n : Navigator P) (p : P) :
    (n.pushAndRemoveUntil p).AboveBottom Q :=
  fun _ hr => nomatch hr

theorem AboveBottom.update {k : Nat} {f : P → P} (hn : n.AboveBottom Q)
    (hf : ∀ r ∈ n.routes.dropLast, r.key = k → Q (f r.page)) : (n.update k f).AboveBottom Q := by
  intro r hr
  rw [update_routes, ← List.map_dropLast] at hr
  obtain ⟨r', hr', rfl⟩ := List.mem_map.mp hr
  rw [Route.update]
  split
  · exact hf r' hr' ‹_›
  · exact hn r' hr'

/-- The topmost page has the property, or it is the only one. -/
theorem AboveBottom.head? (hn : n.AboveBottom Q) {r : Route P} (hr : n.routes.head? = some r) :
    Q r.page ∨ n.routes = [r] := by
  cases hroutes : n.routes with
  | nil =>
    rw [hroutes] at hr
    cases hr
  | cons r' rest =>
    rw [hroutes] at hr
    obtain rfl := Option.some.inj hr
    cases rest with
    | nil => exact Or.inr rfl
    | cons r₂ rest =>
      refine Or.inl (hn r' ?_)
      rw [hroutes]
      exact List.mem_cons_self

end AboveBottom

theorem mem_pop_leaving {n : Navigator P} {r : Route P} (hr : r ∈ n.pop.leaving) :
    r ∈ n.leaving ∨ n.routes.head? = some r := by
  cases hroutes : n.routes with
  | nil =>
    rw [pop, hroutes] at hr
    exact Or.inl hr
  | cons r' rest =>
    rw [pop, hroutes] at hr
    rcases List.mem_cons.mp hr with rfl | hr
    · exact Or.inr rfl
    · exact Or.inl hr

/-- The page at the bottom has the property. -/
def Bottom (Q : P → Prop) (n : Navigator P) : Prop := ∃ r, n.routes.getLast? = some r ∧ Q r.page

section Bottom

variable {Q : P → Prop} {n : Navigator P}

theorem Bottom.ne_nil (h : n.Bottom Q) : n.routes ≠ [] := by
  obtain ⟨r, hr, -⟩ := h
  exact List.ne_nil_of_mem (List.mem_of_getLast? hr)

theorem Bottom.home {p : P} (hp : Q p) : (Navigator.home p).Bottom Q := ⟨_, rfl, hp⟩

theorem Bottom.push (h : n.Bottom Q) (p : P) : (n.push p).Bottom Q := by
  obtain ⟨r, hr, hq⟩ := h
  exact ⟨r, (List.getLast?_cons_of_ne_nil (Bottom.ne_nil ⟨r, hr, hq⟩)).trans hr, hq⟩

/-- What lies below the topmost route stays where it is. -/
theorem bottom_pop_iff (h : n.routes.length ≠ 1) : n.pop.Bottom Q ↔ n.Bottom Q := by
  rw [Bottom, Bottom, pop_routes, List.getLast?_tail, if_neg h]

theorem Bottom.pushReplacement (h : n.Bottom Q) {p : P} (hp : n.routes.length = 1 → Q p) :
    (n.pushReplacement p).Bottom Q := by
  rw [Navigator.pushReplacement, if_neg (by simpa using h.ne_nil)]
  by_cases hone : n.routes.length = 1
  · refine ⟨⟨n.pop.nextKey, p⟩, ?_, hp hone⟩
    have hnil : n.pop.routes = [] := by
      rw [pop_routes]
      exact List.eq_nil_of_length_eq_zero (by rw [List.length_tail, hone])
    rw [push_routes, hnil]
    rfl
  · exact ((bottom_pop_iff hone).mpr h).push p

theorem Bottom.pushAndRemoveUntil {p : P} (hp : Q p) : (n.pushAndRemoveUntil p).Bottom Q :=
  ⟨_, rfl, hp⟩

theorem Bottom.update {k : Nat} {f : P → P} (h : n.Bottom Q)
    (hf : ∀ r ∈ n.routes, r.key = k → Q r.page → Q (f r.page)) : (n.update k f).Bottom Q := by
  obtain ⟨r, hr, hq⟩ := h
  refine ⟨r.update k f, ?_, ?_⟩
  · rw [update_routes, List.getLast?_map, hr]
    rfl
  · rw [Route.update]
    split
    · exact hf r (List.mem_of_getLast? hr) ‹_› hq
    · exact hq

/-- The only page on the stack is the one at the bottom. -/
theorem Bottom.head? (h : n.Bottom Q) (hone : n.routes.length = 1) {r : Route P}
    (hr : n.routes.head? = some r) : Q r.page := by
  obtain ⟨r', hr', hq⟩ := h
  obtain ⟨only, honly⟩ := List.length_eq_one_iff.mp hone
  rw [honly] at hr hr'
  obtain rfl := Option.some.inj hr
  obtain rfl := Option.some.inj hr'
  exact hq

end Bottom

/-- What is looked at of the page at the bottom. -/
def bottom? {V : Type} (view : P → V) (n : Navigator P) : Option V :=
  n.routes.getLast?.map fun r => view r.page

section BottomView

variable {V : Type} {view : P → V} {n : Navigator P}

theorem bottom?_push (h : n.routes ≠ []) (p : P) : (n.push p).bottom? view = n.bottom? view := by
  rw [bottom?, push_routes, List.getLast?_cons_of_ne_nil h, bottom?]

theorem bottom?_pop (h : n.routes.length ≠ 1) : n.pop.bottom? view = n.bottom? view := by
  rw [bottom?, pop_routes, List.getLast?_tail, if_neg h, bottom?]

theorem bottom?_pushReplacement (h : 1 < n.routes.length) (p : P) :
    (n.pushReplacement p).bottom? view = n.bottom? view := by
  have hne : n.routes ≠ [] := List.ne_nil_of_length_pos (by omega)
  have hpop : n.pop.routes ≠ [] := by
    rw [pop_routes]
    exact List.ne_nil_of_length_pos (by rw [List.length_tail]; omega)
  rw [Navigator.pushReplacement, if_neg (by simpa using hne), bottom?_push hpop,
    bottom?_pop (by omega)]

theorem bottom?_pushReplacement_one (h : n.routes.length = 1) (p : P) :
    (n.pushReplacement p).bottom? view = some (view p) := by
  obtain ⟨r, hr⟩ := List.length_eq_one_iff.mp h
  rw [bottom?, pushReplacement_routes p (by rw [hr]; exact List.cons_ne_nil _ _), hr]
  rfl

theorem bottom?_update {k : Nat} {f : P → P}
    (hf : ∀ r ∈ n.routes, r.key = k → view (f r.page) = view r.page) :
    (n.update k f).bottom? view = n.bottom? view := by
  rw [bottom?, bottom?, update_routes, List.getLast?_map, Option.map_map]
  refine Option.map_congr fun r hr => ?_
  show view (r.update k f).page = view r.page
  rw [Route.update]
  split
  · exact hf r (List.mem_of_getLast? hr) ‹_›
  · rfl

end BottomView

/-- A page without the property is popped only from the bottom. -/
theorem AboveBottom.mem_pop_leaving {Q : P → Prop} {n : Navigator P} (hn : n.AboveBottom Q)
    {r : Route P} (hr : r ∈ n.pop.leaving) (hq : ¬ Q r.page) : r ∈ n.leaving ∨ n.pop.routes = [] := by
  refine (Navigator.mem_pop_leaving hr).imp_right fun htop => ?_
  rcases hn.head? htop with hyes | hone
  · exact absurd hyes hq
  · rw [pop_routes, hone]
    rfl

/-- A removed route does not share its key with a route on the stack. -/
theorem WellKeyed.ne_of_leaving {n : Navigator P} (h : n.WellKeyed) {r r' : Route P}
    (hr : r ∈ n.routes) (hr' : r' ∈ n.leaving) : r.key ≠ r'.key := by
  have hall := h.nodup
  rw [mountedRoutes, List.map_append] at hall
  exact (List.nodup_append.mp hall).2.2 r.key (List.mem_map_of_mem hr) r'.key
    (List.mem_map_of_mem hr')

end Navigator

end Flutter
