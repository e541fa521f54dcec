import Mathlib.Data.List.Forall2

/-! Steps that can fail, and going through a list with such a step: the first failure is the
answer. -/

namespace FluentBuilder

variable {α β ε : Type}

theorem bind_eq_ok_iff (x : Except ε α) (f : α → Except ε β) (b : β) :
    x >>= f = .ok b ↔ ∃ a, x = .ok a ∧ f a = .ok b := by
  cases x with
  | error e => simp [bind, Except.bind]
  | ok a => simp [bind, Except.bind]

theorem bind_eq_error_iff (x : Except ε α) (f : α → Except ε β) (e : ε) :
    x >>= f = .error e ↔ x = .error e ∨ ∃ a, x = .ok a ∧ f a = .error e := by
  cases x with
  | error e' => simp [bind, Except.bind]
  | ok a => simp [bind, Except.bind]

/-- A check before a step: both must pass. -/
theorem bind_unit_eq_ok_iff (x : Except ε Unit) (f : Unit → Except ε β) (b : β) :
    x >>= f = .ok b ↔ x = .ok () ∧ f () = .ok b := by
  rw [bind_eq_ok_iff]
  exact ⟨fun ⟨(), hx, hf⟩ => ⟨hx, hf⟩, fun ⟨hx, hf⟩ => ⟨(), hx, hf⟩⟩

/-- A check before a step: the check fails, or it passes and the step fails. -/
theorem bind_unit_eq_error_iff (x : Except ε Unit) (f : Unit → Except ε β) (e : ε) :
    x >>= f = .error e ↔ x = .error e ∨ x = .ok () ∧ f () = .error e := by
  rw [bind_eq_error_iff]
  exact or_congr_right ⟨fun ⟨(), hx, hf⟩ => ⟨hx, hf⟩, fun ⟨hx, hf⟩ => ⟨(), hx, hf⟩⟩

theorem mapError_eq_error_iff {δ : Type} (x : Except ε α) (g : ε → δ) (d : δ) :
    x.mapError g = .error d ↔ ∃ e, x = .error e ∧ d = g e := by
  cases x with
  | error e => simp [Except.mapError, eq_comm]
  | ok a => simp [Except.mapError]

theorem mapError_eq_ok_iff {δ : Type} (x : Except ε α) (g : ε → δ) (a : α) :
    x.mapError g = .ok a ↔ x = .ok a := by
  cases x <;> simp [Except.mapError]

theorem exists_eq_ok_of_toBool {x : Except ε α} (h : x.toBool = true) : ∃ a, x = .ok a := by
  cases x with
  | error e => cases h
  | ok a => exact ⟨a, rfl⟩

theorem exists_eq_ok_of_any {x : Except ε α} {p : α → Bool} (h : x.toOption.any p = true) :
    ∃ a, x = .ok a ∧ p a = true := by
  cases x with
  | error e => cases h
  | ok a => exact ⟨a, rfl, h⟩

theorem eq_ok_of_toOption {x : Except ε α} {a : α} (h : x.toOption = some a) : x = .ok a := by
  cases x with
  | error e => cases h
  | ok b => rw [Option.some.inj h]

/-- A traversal succeeds exactly with the results of the items one by one. -/
theorem mapM_eq_ok_iff (f : α → Except ε β) (xs : List α) (ys : List β) :
    xs.mapM f = .ok ys ↔ List.Forall₂ (fun x y => f x = .ok y) xs ys := by
  induction xs generalizing ys with
  | nil => simp [pure, Except.pure, eq_comm]
  | cons x xs ih =>
    rw [List.mapM_cons, List.forall₂_cons_left_iff, bind_eq_ok_iff]
    refine exists_congr fun y => ?_
    rw [bind_eq_ok_iff]
    simp only [ih, pure, Except.pure, Except.ok.injEq]
    constructor
    · rintro ⟨hx, rest, hr, rfl⟩
      exact ⟨rest, hx, hr, rfl⟩
    · rintro ⟨rest, hx, hr, rfl⟩
      exact ⟨hx, rest, hr, rfl⟩

theorem exists_mapM_eq_ok_iff (f : α → Except ε β) (xs : List α) :
    (∃ ys, xs.mapM f = .ok ys) ↔ ∀ x ∈ xs, ∃ y, f x = .ok y := by
  simp only [mapM_eq_ok_iff]
  induction xs with
  | nil => simp
  | cons x xs ih =>
    rw [List.forall_mem_cons, ← ih]
    constructor
    · rintro ⟨_, h⟩
      obtain ⟨y, ys, hx, hr, -⟩ := List.forall₂_cons_left_iff.mp h
      exact ⟨⟨y, hx⟩, ys, hr⟩
    · rintro ⟨⟨y, hx⟩, ys, hr⟩
      exact ⟨y :: ys, .cons hx hr⟩

/-- A traversal fails exactly as the first item does that fails. -/
theorem mapM_eq_error_iff (f : α → Except ε β) (xs : List α) (e : ε) :
    xs.mapM f = .error e ↔
      ∃ before x after, xs = before ++ x :: after ∧ (∀ y ∈ before, ∃ z, f y = .ok z) ∧
        f x = .error e := by
  induction xs with
  | nil => simp [pure, Except.pure]
  | cons x xs ih =>
    rw [List.mapM_cons, bind_eq_error_iff]
    constructor
    · rintro (hx | ⟨y, hx, hr⟩)
      · exact ⟨[], x, xs, rfl, by simp, hx⟩
      · rw [bind_eq_error_iff] at hr
        rcases hr with hr | ⟨_, _, hr⟩
        · obtain ⟨before, z, after, rfl, hb, hz⟩ := ih.mp hr
          exact ⟨x :: before, z, after, rfl, List.forall_mem_cons.mpr ⟨⟨y, hx⟩, hb⟩, hz⟩
        · cases hr
    · rintro ⟨before, z, after, hs, hb, hz⟩
      cases before with
      | nil =>
        obtain ⟨rfl, -⟩ := List.cons.inj hs
        exact .inl hz
      | cons w before =>
        obtain ⟨rfl, ht⟩ := List.cons.inj hs
        obtain ⟨⟨y, hx⟩, hb⟩ := List.forall_mem_cons.mp hb
        have hr := ih.mpr ⟨before, z, after, ht, hb, hz⟩
        exact .inr ⟨y, hx, (bind_eq_error_iff ..).mpr (.inl hr)⟩

theorem exists_of_forall₂_left {R : α → β → Prop} {xs : List α} {ys : List β}
    (h : List.Forall₂ R xs ys) {x : α} (hx : x ∈ xs) : ∃ y ∈ ys, R x y := by
  obtain ⟨hl, hget⟩ := List.forall₂_iff_get.mp h
  obtain ⟨i, hi, rfl⟩ := List.getElem_of_mem hx
  exact ⟨ys[i], List.getElem_mem _, hget i hi (hl ▸ hi)⟩

theorem exists_of_forall₂_right {R : α → β → Prop} {xs : List α} {ys : List β}
    (h : List.Forall₂ R xs ys) {y : β} (hy : y ∈ ys) : ∃ x ∈ xs, R x y :=
  exists_of_forall₂_left h.flip hy

theorem map_eq_map_of_forall₂ {γ : Type} {R : α → β → Prop} {xs : List α} {ys : List β} {f : α → γ}
    {g : β → γ} (h : List.Forall₂ R xs ys) (hR : ∀ x y, R x y → f x = g y) :
    xs.map f = ys.map g := by
  induction h with
  | nil => rfl
  | cons hxy _ ih => rw [List.map_cons, List.map_cons, ih, hR _ _ hxy]

theorem forall₂_of_map_eq {γ : Type} {R : α → β → Prop} {f : α → γ} {g : β → γ} {xs : List α}
    {ys : List β} (hR : ∀ x ∈ xs, ∀ y ∈ ys, f x = g y → R x y) (h : xs.map f = ys.map g) :
    List.Forall₂ R xs ys := by
  induction xs generalizing ys with
  | nil =>
    rw [List.map_nil, eq_comm, List.map_eq_nil_iff] at h
    rw [h]
    exact .nil
  | cons x xs ih =>
    rw [List.map_cons, eq_comm, List.map_eq_cons_iff] at h
    obtain ⟨y, ys, rfl, hy, hrest⟩ := h
    refine .cons (hR x List.mem_cons_self y List.mem_cons_self hy.symm) (ih ?_ hrest.symm)
    intro x' hx y' hy'
    exact hR x' (List.mem_cons_of_mem _ hx) y' (List.mem_cons_of_mem _ hy')

theorem filterMap_eq_of_forall₂ {g : α → Option β} {xs : List α} {ys : List β}
    (h : List.Forall₂ (fun x y => g x = some y) xs ys) : xs.filterMap g = ys := by
  induction h with
  | nil => rfl
  | cons hx _ ih => rw [List.filterMap_cons_some hx, ih]

theorem find?_rel {R : α → α → Prop} {p : α → Bool} {xs ys : List α}
    (h : List.Forall₂ R xs ys) (hp : ∀ x y, R x y → p x = p y) :
    Option.Rel R (xs.find? p) (ys.find? p) := by
  induction h with
  | nil => exact .none
  | @cons x y xs ys hxy _ ih =>
    rw [List.find?_cons, List.find?_cons, hp x y hxy]
    cases p y with
    | true => exact .some hxy
    | false => exact ih

theorem forM_eq_ok_iff (f : α → Except ε Unit) (xs : List α) :
    xs.forM f = .ok () ↔ ∀ x ∈ xs, f x = .ok () := by
  induction xs with
  | nil => simp [pure, Except.pure]
  | cons x xs ih =>
    rw [List.forM_eq_forM] at ih ⊢
    rw [List.forM_cons, bind_unit_eq_ok_iff, ih, List.forall_mem_cons]

/-- Checks items one after the other, each against a note of those before it. -/
def scan {σ : Type} (step : σ → α → Except ε Unit) (note : σ → α → σ) :
    σ → List α → Except ε Unit
  | _, [] => .ok ()
  | seen, x :: rest => do
    step seen x
    scan step note (note seen x) rest

/-- Such checks fail exactly as the first one does that fails. -/
theorem scan_eq_error_iff {σ : Type} (step : σ → α → Except ε Unit) (note : σ → α → σ) (seen : σ)
    (xs : List α) (e : ε) :
    scan step note seen xs = .error e ↔
      ∃ before x after, xs = before ++ x :: after ∧ scan step note seen before = .ok () ∧
        step (before.foldl note seen) x = .error e := by
  induction xs generalizing seen with
  | nil => simp [scan]
  | cons x xs ih =>
    rw [scan, bind_unit_eq_error_iff]
    constructor
    · rintro (hx | ⟨hx, hr⟩)
      · exact ⟨[], x, xs, rfl, rfl, hx⟩
      · obtain ⟨before, z, after, rfl, hb, hz⟩ := (ih _).mp hr
        refine ⟨x :: before, z, after, rfl, ?_, hz⟩
        rw [scan, bind_unit_eq_ok_iff]
        exact ⟨hx, hb⟩
    · rintro ⟨before, z, after, hs, hb, hz⟩
      cases before with
      | nil =>
        obtain ⟨rfl, -⟩ := List.cons.inj hs
        exact .inl hz
      | cons w before =>
        obtain ⟨rfl, ht⟩ := List.cons.inj hs
        rw [scan, bind_unit_eq_ok_iff] at hb
        exact .inr ⟨hb.1, (ih _).mpr ⟨before, z, after, ht, hb.2, hz⟩⟩

/-- Where each check looks at a key that must be new, none has been seen before, and none comes
twice. -/
theorem scan_eq_ok_iff_of_new {step : List String → α → Except ε Unit} (key : α → String)
    {P : α → Prop} (hstep : ∀ seen x, step seen x = .ok () ↔ P x ∧ key x ∉ seen)
    (seen : List String) (xs : List α) :
    scan step (fun seen x => key x :: seen) seen xs = .ok () ↔
      (∀ x ∈ xs, P x ∧ key x ∉ seen) ∧ (xs.map key).Nodup := by
  induction xs generalizing seen with
  | nil => simp [scan]
  | cons x xs ih =>
    rw [scan, bind_unit_eq_ok_iff, hstep, ih, List.map_cons, List.nodup_cons, List.forall_mem_cons]
    constructor
    · rintro ⟨hx, hxs, hd⟩
      refine ⟨⟨hx, fun y hy => ⟨(hxs y hy).1, fun h => ?_⟩⟩, fun hm => ?_, hd⟩
      · exact (hxs y hy).2 (List.mem_cons_of_mem _ h)
      · obtain ⟨y, hy, he⟩ := List.mem_map.mp hm
        exact (hxs y hy).2 (he ▸ List.mem_cons_self)
    · rintro ⟨⟨hx, hxs⟩, hm, hd⟩
      refine ⟨hx, fun y hy => ⟨(hxs y hy).1, fun h => ?_⟩, hd⟩
      rcases List.mem_cons.mp h with he | h
      · exact hm (List.mem_map.mpr ⟨y, hy, he⟩)
      · exact (hxs y hy).2 h

theorem forM_eq_scan (f : α → Except ε Unit) (xs : List α) :
    xs.forM f = scan (fun _ x => f x) (fun u _ => u) () xs := by
  induction xs with
  | nil => rfl
  | cons x xs ih =>
    rw [List.forM_eq_forM] at ih ⊢
    rw [List.forM_cons, ih, scan]

theorem forM_eq_error_iff (f : α → Except ε Unit) (xs : List α) (e : ε) :
    xs.forM f = .error e ↔
      ∃ before x after, xs = before ++ x :: after ∧ (∀ y ∈ before, f y = .ok ()) ∧
        f x = .error e := by
  rw [forM_eq_scan, scan_eq_error_iff]
  simp only [← forM_eq_scan, forM_eq_ok_iff]

/-- In a list with distinct keys an item is found by its key. -/
theorem find?_eq_some_of_nodup {key : α → String} {xs : List α} (hd : (xs.map key).Nodup) {x : α}
    (hx : x ∈ xs) : xs.find? (key · == key x) = some x := by
  induction xs with
  | nil => cases hx
  | cons y ys ih =>
    rw [List.map_cons, List.nodup_cons] at hd
    rcases List.mem_cons.mp hx with rfl | hx
    · simp
    · have hne : key y ≠ key x := fun he => hd.1 (he ▸ List.mem_map_of_mem hx)
      rw [List.find?_cons_of_neg (by simpa using hne)]
      exact ih hd.2 hx

theorem lookup_eq_some_iff_of_nodup {xs : List (String × β)} (h : (xs.map Prod.fst).Nodup)
    {k : String} {v : β} : xs.lookup k = some v ↔ (k, v) ∈ xs := by
  induction xs with
  | nil => simp
  | cons x xs ih =>
    obtain ⟨l, w⟩ := x
    rw [List.map_cons, List.nodup_cons] at h
    rw [List.lookup_cons, List.mem_cons, Prod.mk.injEq]
    by_cases hk : k = l
    · subst hk
      have hnot : (k, v) ∉ xs := fun hmem => h.1 (List.mem_map.mpr ⟨_, hmem, rfl⟩)
      simp [hnot, eq_comm]
    · have hb : (k == l) = false := by simpa using hk
      simp [hb, hk, ih h.2]

theorem lookup_filter_of_ne {name on : String} (hn : name ≠ on) (l : List (String × β)) :
    (l.filter (·.1 ≠ on)).lookup name = l.lookup name := by
  induction l with
  | nil => rfl
  | cons p rest ih =>
    obtain ⟨key, x⟩ := p
    by_cases hk : key = on
    · have hb : (name == key) = false := by simpa [hk] using hn
      rw [List.filter_cons_of_neg (by simpa using hk), List.lookup_cons, hb, ih]
    · rw [List.filter_cons_of_pos (by simpa using hk), List.lookup_cons, List.lookup_cons, ih]

end FluentBuilder
