import Mathlib.Data.List.Forall2

/-!
# Outcomes of computations in a row

A computation that may fail has a value or an error.  Two computations in a row have a value
exactly when both have one, and a computation done for every item of a list has values exactly
when it has one for each item; otherwise it fails as it does for the first item without a
value.  `verdict` is how a computation goes when its value does not matter.  `FailsWithin` bounds
the errors of a computation and `GivesWithin` its values; both are kept when computations are put
in a row.
-/

namespace AliasBinding

variable {ε α β : Type}

/-- A computation has a value when it has no error. -/
theorem exists_eq_ok_iff {x : Except ε α} :
  (∃ a, x = .ok a) ↔ ∀ e, x ≠ .error e
  := by
  cases x with
  | ok a => simp
  | error e => simp

/-! ### Two in a row -/

theorem bind_eq_ok_iff {x : Except ε α} {f : α → Except ε β} {b : β} :
  (x >>= f) = .ok b ↔ ∃ a, x = .ok a ∧ f a = .ok b
  := by
  cases x with
  | ok a =>
    constructor
    · intro h
      use a, rfl, h
    · rintro ⟨_, ha, h⟩
      cases ha
      apply h
  | error e =>
    constructor
    · intro h
      cases h
    · rintro ⟨_, h, _⟩
      cases h

theorem bind_eq_ok {x : Except ε α} {f : α → Except ε β} {a : α} {b : β} (hx : x = .ok a)
    (hf : f a = .ok b) :
  (x >>= f) = .ok b
  := bind_eq_ok_iff.mpr ⟨a, hx, hf⟩

theorem bind_eq_error_iff {x : Except ε α} {f : α → Except ε β} {e : ε} :
  (x >>= f) = .error e ↔ x = .error e ∨ ∃ a, x = .ok a ∧ f a = .error e
  := by
  cases x with
  | ok a =>
    constructor
    · intro h
      right
      use a, rfl, h
    · rintro (h | ⟨_, ha, h⟩)
      · cases h
      · cases ha
        apply h
  | error e' =>
    constructor
    · intro h
      cases h
      left
      rfl
    · rintro (h | ⟨_, h, _⟩)
      · cases h
        rfl
      · cases h

theorem exists_bind_eq_ok_iff {x : Except ε α} {f : α → Except ε β} :
  (∃ b, (x >>= f) = .ok b) ↔ ∃ a, x = .ok a ∧ ∃ b, f a = .ok b
  := by
  constructor
  · rintro ⟨b, h⟩
    obtain ⟨a, ha, h⟩ := bind_eq_ok_iff.mp h
    use a, ha, b, h
  · rintro ⟨a, ha, b, h⟩
    use b
    apply bind_eq_ok_iff.mpr ⟨a, ha, h⟩

/-- A first computation of which only the success matters. -/
theorem bind_const_eq_ok_iff {x : Except ε α} {y : Except ε β} {b : β} :
  (x >>= fun _ => y) = .ok b ↔ (∃ a, x = .ok a) ∧ y = .ok b
  := by
  rw [bind_eq_ok_iff]
  constructor
  · rintro ⟨a, ha, h⟩
    use ⟨a, ha⟩
  · rintro ⟨⟨a, ha⟩, h⟩
    use a

/-- A computation of which the value is only worked on goes as it went before. -/
theorem exists_bind_pure_eq_ok_iff {x : Except ε α} {f : α → β} :
  (∃ b, (x >>= fun a => pure (f a)) = .ok b) ↔ ∃ a, x = .ok a
  := by
  rw [exists_bind_eq_ok_iff]
  constructor
  · rintro ⟨a, ha, -⟩
    use a
  · rintro ⟨a, ha⟩
    use a, ha, f a
    rfl

theorem map_eq_ok_iff {x : Except ε α} {f : α → β} {b : β} :
  f <$> x = .ok b ↔ ∃ a, x = .ok a ∧ f a = b
  := by
  rw [map_eq_pure_bind, bind_eq_ok_iff]
  simp only [pure, Except.pure, Except.ok.injEq]

/-! ### Success or failure -/

/-- How a computation goes, its value apart. -/
def verdict (x : Except ε α) : Except ε Unit := (fun _ => ()) <$> x

theorem verdict_eq_ok_iff {x : Except ε α} :
  verdict x = .ok () ↔ ∃ a, x = .ok a
  := by
  rw [verdict, map_eq_ok_iff]
  simp

theorem verdict_eq_error_iff {x : Except ε α} {e : ε} :
  verdict x = .error e ↔ x = .error e
  := by
  cases x with
  | ok a =>
    constructor
    · nofun
    · nofun
  | error e' =>
    constructor
    · intro h
      cases h
      rfl
    · rintro ⟨⟩
      rfl

/-- What cannot fail has no part in the verdict. -/
theorem verdict_bind_of_ok {x : Except ε α} {f : α → Except ε β} (hf : ∀ a, ∃ b, f a = .ok b) :
  verdict (x >>= f) = verdict x
  := by
  cases x with
  | ok a =>
    obtain ⟨b, hb⟩ := hf a
    rw [verdict_eq_ok_iff.mpr ⟨a, rfl⟩]
    apply verdict_eq_ok_iff.mpr ⟨b, hb⟩
  | error e => rfl

theorem verdict_bind_pure (x : Except ε α) (f : α → β) :
  verdict (x >>= fun a => pure (f a)) = verdict x
  := verdict_bind_of_ok fun a => ⟨f a, rfl⟩

/-- Of a first computation whose value is not used, the verdict matters. -/
theorem bind_const_eq_verdict_bind (x : Except ε α) (y : Except ε β) :
  (x >>= fun _ => y) = verdict x >>= fun _ => y
  := by
  cases x with
  | ok a => rfl
  | error e => rfl

/-! ### One for every item of a list -/

/-- What the items of a list bring about in those of another one holds of all of these. -/
theorem forall_mem_of_forall₂ {R : α → β → Prop} {xs : List α} {ys : List β}
    (h : List.Forall₂ R xs ys) {P : β → Prop} (hP : ∀ x ∈ xs, ∀ y, R x y → P y) :
  ∀ y ∈ ys, P y
  := by
  induction h with
  | nil => nofun
  | cons hxy _ ih =>
    rw [List.forall_mem_cons] at hP ⊢
    exact ⟨hP.1 _ hxy, ih hP.2⟩

/-- A computation for every item has the values that it has for the items. -/
theorem mapM_eq_ok_iff {f : α → Except ε β} {xs : List α} {ys : List β} :
  xs.mapM f = .ok ys ↔ List.Forall₂ (fun x y => f x = .ok y) xs ys
  := by
  induction xs generalizing ys with
  | nil =>
    rw [List.mapM_nil, List.forall₂_nil_left_iff]
    constructor
    · intro h
      cases h
      rfl
    · rintro rfl
      rfl
  | cons x xs ih =>
    rw [List.mapM_cons, List.forall₂_cons_left_iff, bind_eq_ok_iff]
    constructor
    · rintro ⟨y, hy, h⟩
      obtain ⟨zs, hzs, h⟩ := bind_eq_ok_iff.mp h
      cases h
      use y, zs, hy, ih.mp hzs
    · rintro ⟨y, zs, hy, hzs, rfl⟩
      use y, hy
      rw [ih.mpr hzs]
      rfl

/-- A function of the values can be applied to all of them at the end. -/
theorem mapM_map_eq {γ : Type} (f : α → Except ε β) (g : β → γ) (xs : List α) :
  (xs.mapM fun x => g <$> f x) = List.map g <$> xs.mapM f
  := by
  induction xs with
  | nil => rfl
  | cons x xs ih =>
    simp only [List.mapM_cons, ih, bind_map_left, map_bind, map_pure, List.map_cons]

/-- A computation for every item has values when it has one for each item. -/
theorem exists_mapM_eq_ok_iff {f : α → Except ε β} {xs : List α} :
  (∃ ys, xs.mapM f = .ok ys) ↔ ∀ x ∈ xs, ∃ y, f x = .ok y
  := by
  induction xs with
  | nil =>
    constructor
    · intro _ x hx
      cases hx
    · intro _
      use []
      rfl
  | cons x xs ih =>
    rw [List.mapM_cons, exists_bind_eq_ok_iff, List.forall_mem_cons]
    constructor
    · rintro ⟨y, hy, h⟩
      obtain ⟨ys, hys, -⟩ := exists_bind_eq_ok_iff.mp h
      use ⟨y, hy⟩
      apply ih.mp ⟨ys, hys⟩
    · rintro ⟨⟨y, hy⟩, h⟩
      obtain ⟨ys, hys⟩ := ih.mpr h
      use y, hy, y :: ys
      rw [hys]
      rfl

/-- A computation for every item fails as it does for the first item without a value. -/
theorem mapM_eq_error_iff {f : α → Except ε β} {xs : List α} {e : ε} :
  xs.mapM f = .error e ↔ ∃ before x after, xs = before ++ x :: after
    ∧ (∀ y ∈ before, ∃ b, f y = .ok b) ∧ f x = .error e
  := by
  constructor
  · induction xs with
    | nil =>
      intro h
      cases h
    | cons x xs ih =>
      rw [List.mapM_cons, bind_eq_error_iff]
      rintro (hx | ⟨y, hy, h⟩)
      · use [], x, xs, rfl, nofun
      · obtain hxs | ⟨_, -, h⟩ := bind_eq_error_iff.mp h
        · obtain ⟨before, x', after, rfl, hbefore, hx'⟩ := ih hxs
          use x :: before, x', after, rfl
          constructor
          · rw [List.forall_mem_cons]
            use ⟨y, hy⟩
          · apply hx'
        · cases h
  · rintro ⟨before, x, after, rfl, hbefore, hx⟩
    obtain ⟨bs, hbs⟩ := exists_mapM_eq_ok_iff.mpr hbefore
    rw [List.mapM_append, hbs, List.mapM_cons, hx]
    rfl

/-- A computation that is two others in a row for each item can be done by doing the first one
for every item and then the second one. -/
theorem mapM_eq_ok_iff_of_comp {ε' γ : Type} {f : α → Except ε γ} {g : α → Except ε β}
    {h : β → Except ε' γ}
    (hcomp : ∀ {x z}, f x = .ok z ↔ ∃ y, g x = .ok y ∧ h y = .ok z) {xs : List α}
    {zs : List γ} :
  xs.mapM f = .ok zs ↔ ∃ ys, xs.mapM g = .ok ys ∧ ys.mapM h = .ok zs
  := by
  simp only [mapM_eq_ok_iff]
  induction xs generalizing zs with
  | nil =>
    constructor
    · intro hzs
      cases hzs
      exact ⟨[], .nil, .nil⟩
    · rintro ⟨ys, hys, hzs⟩
      cases hys
      cases hzs
      apply List.Forall₂.nil
  | cons x xs ih =>
    constructor
    · intro hzs
      cases hzs with
      | cons hx hxs =>
        obtain ⟨y, hy, hz⟩ := hcomp.mp hx
        obtain ⟨ys, hys, hzs⟩ := ih.mp hxs
        exact ⟨y :: ys, .cons hy hys, .cons hz hzs⟩
    · rintro ⟨ys, hys, hzs⟩
      cases hys with
      | cons hy hys =>
        cases hzs with
        | cons hz hzs => exact .cons (hcomp.mpr ⟨_, hy, hz⟩) (ih.mpr ⟨_, hys, hzs⟩)

/-- Steps over the items of a list can be done by taking other items for them and doing steps over
these, when each step can. -/
theorem foldlM_eq_ok_iff_of_comp {ε' σ : Type} {R : α → β → Prop} {step : σ → α → Except ε σ}
    {step' : σ → β → Except ε' σ}
    (hcomp : ∀ s x s', step s x = .ok s' ↔ ∃ y, R x y ∧ step' s y = .ok s') {xs : List α}
    {s s' : σ} :
  xs.foldlM step s = .ok s' ↔ ∃ ys, List.Forall₂ R xs ys ∧ ys.foldlM step' s = .ok s'
  := by
  induction xs generalizing s with
  | nil =>
    constructor
    · intro h
      cases h
      exact ⟨[], .nil, rfl⟩
    · rintro ⟨ys, hys, h⟩
      cases hys
      cases h
      rfl
  | cons x xs ih =>
    rw [List.foldlM_cons, bind_eq_ok_iff]
    constructor
    · rintro ⟨next, hnext, h⟩
      obtain ⟨y, hy, hnext⟩ := (hcomp s x next).mp hnext
      obtain ⟨ys, hys, h⟩ := ih.mp h
      exact ⟨y :: ys, .cons hy hys, bind_eq_ok hnext h⟩
    · rintro ⟨ys, hys, h⟩
      cases hys with
      | cons hy hys =>
        obtain ⟨next, hnext, h⟩ := bind_eq_ok_iff.mp h
        exact ⟨next, (hcomp s x next).mpr ⟨_, hy, hnext⟩, ih.mpr ⟨_, hys, h⟩⟩

/-! ### Values that are kept -/

/-- A value of the first computation is the value of the second one. -/
def Keeps (x x' : Except ε α) : Prop := ∀ a, x = .ok a → x' = .ok a

theorem keeps_refl (x : Except ε α) :
  Keeps x x
  := fun _ h => h

theorem Keeps.bind {x x' : Except ε α} {f f' : α → Except ε β} (hx : Keeps x x')
    (hf : ∀ a, Keeps (f a) (f' a)) :
  Keeps (x >>= f) (x' >>= f')
  := by
  intro b h
  obtain ⟨a, ha, h⟩ := bind_eq_ok_iff.mp h
  apply bind_eq_ok (hx a ha) (hf a b h)

theorem keeps_bind {x : Except ε α} {f f' : α → Except ε β} (hf : ∀ a, Keeps (f a) (f' a)) :
  Keeps (x >>= f) (x >>= f')
  := (keeps_refl x).bind hf

theorem Keeps.bind_left {x x' : Except ε α} (hx : Keeps x x') (f : α → Except ε β) :
  Keeps (x >>= f) (x' >>= f)
  := hx.bind fun a => keeps_refl (f a)

/-! ### Bounds on errors -/

/-- The computation has no error but those in `P`. -/
def FailsWithin (P : ε → Prop) (x : Except ε α) : Prop := ∀ e, x = .error e → P e

variable {P : ε → Prop}

theorem failsWithin_ok (a : α) :
  FailsWithin P (.ok a)
  := nofun

theorem failsWithin_error {e : ε} (h : P e) :
  FailsWithin P (.error e : Except ε α)
  := by
  intro _ he
  cases he
  apply h

theorem failsWithin_bind {x : Except ε α} {f : α → Except ε β} (hx : FailsWithin P x)
    (hf : ∀ a, FailsWithin P (f a)) :
  FailsWithin P (x >>= f)
  := by
  intro e he
  obtain h | ⟨a, -, h⟩ := bind_eq_error_iff.mp he
  · apply hx e h
  · apply hf a e h

theorem failsWithin_mapM {f : α → Except ε β} {xs : List α}
    (hf : ∀ x ∈ xs, FailsWithin P (f x)) :
  FailsWithin P (xs.mapM f)
  := by
  intro e he
  obtain ⟨before, x, after, rfl, -, hx⟩ := mapM_eq_error_iff.mp he
  apply hf x (by simp) e hx

/-! ### Bounds on values -/

/-- The computation has no value but those in `P`. -/
structure GivesWithin (P : α → Prop) (x : Except ε α) : Prop where
  of_eq_ok : ∀ a, x = .ok a → P a

section Values

variable {P : α → Prop} {Q : β → Prop}

theorem givesWithin_ok {a : α} (h : P a) :
  GivesWithin P (.ok a : Except ε α)
  := by
  constructor
  intro _ ha
  cases ha
  apply h

theorem givesWithin_error (e : ε) :
  GivesWithin P (.error e)
  := ⟨nofun⟩

theorem givesWithin_bind {x : Except ε α} {f : α → Except ε β} (hx : GivesWithin P x)
    (hf : ∀ a, P a → GivesWithin Q (f a)) :
  GivesWithin Q (x >>= f)
  := by
  constructor
  intro b hb
  obtain ⟨a, ha, h⟩ := bind_eq_ok_iff.mp hb
  apply (hf a (hx.of_eq_ok a ha)).of_eq_ok b h

theorem givesWithin_map {x : Except ε α} {f : α → β} (hx : GivesWithin P x)
    (hf : ∀ a, P a → Q (f a)) :
  GivesWithin Q (f <$> x)
  := by
  constructor
  intro b hb
  obtain ⟨a, ha, rfl⟩ := map_eq_ok_iff.mp hb
  apply hf a (hx.of_eq_ok a ha)

/-- What comes last bounds the value. -/
theorem givesWithin_bind_last {x : Except ε α} {f : α → Except ε β}
    (hf : ∀ a, GivesWithin Q (f a)) :
  GivesWithin Q (x >>= f)
  := givesWithin_bind (P := fun _ => True) ⟨fun _ _ => trivial⟩ fun a _ => hf a

theorem givesWithin_mapM {f : α → Except ε β} {xs : List α}
    (hf : ∀ x ∈ xs, GivesWithin Q (f x)) :
  GivesWithin (fun ys => ∀ y ∈ ys, Q y) (xs.mapM f)
  := by
  constructor
  intro ys hys
  apply forall_mem_of_forall₂ (P := Q) (mapM_eq_ok_iff.mp hys)
  intro x hx y hy
  apply (hf x hx).of_eq_ok y hy

/-- The values agree with the items when each of them does with its own. -/
theorem givesWithin_mapM_map_eq {γ : Type} {f : α → Except ε β} {g : β → γ} {k : α → γ}
    {xs : List α} (hf : ∀ x ∈ xs, GivesWithin (fun y => g y = k x) (f x)) :
  GivesWithin (fun ys => ys.map g = xs.map k) (xs.mapM f)
  := by
  induction xs with
  | nil => exact givesWithin_ok rfl
  | cons x xs ih =>
    rw [List.forall_mem_cons] at hf
    rw [List.mapM_cons]
    apply givesWithin_bind hf.1
    intro y hy
    apply givesWithin_bind (ih hf.2)
    intro ys hys
    apply givesWithin_ok
    rw [List.map_cons, List.map_cons, hy, hys]

/-- What holds of a state is kept when each step keeps it. -/
theorem givesWithin_foldlM {f : β → α → Except ε β} {b : β} {xs : List α} (hb : Q b)
    (hf : ∀ b, Q b → ∀ x ∈ xs, GivesWithin Q (f b x)) :
  GivesWithin Q (xs.foldlM f b)
  := by
  induction xs generalizing b with
  | nil => apply givesWithin_ok hb
  | cons x xs ih =>
    rw [List.foldlM_cons]
    apply givesWithin_bind (hf b hb x List.mem_cons_self)
    intro b' hb'
    apply ih hb' fun b hb x hx => hf b hb x (List.mem_cons_of_mem _ hx)

end Values

end AliasBinding
