import AliasBinding.Json.Shape
import AliasBinding.Proofs.Outcome
import Mathlib.Data.List.Nodup

/-!
# Fields of a record

What is read of a field depends on nothing but the values of the members of its name
(`Field.find`).  A reader that takes the members of an object one after the other finds in each
of its slots what is found of the slot's field (`FillsSlots.find_of_foldMembers`), and has a
state when each field can be found (`FillsSlots.exists_foldMembers`).  Two lists of members
agree in fields when each field is found alike in both, its default counting for it when it is
left out (`Agree`).
-/

namespace AliasBinding.Json

/-! ### The members of one name -/

/-- The values of the members of the given name. -/
def contents (name : String) (members : List (String × Json)) : List Json :=
  (members.filter (·.1 = name)).map (·.2)

section Contents

variable {name : String} {v : Json} {ms ms' : List (String × Json)}

@[simp]
theorem contents_nil (name : String) :
  contents name [] = []
  := rfl

@[simp]
theorem contents_append (name : String) (ms ms' : List (String × Json)) :
  contents name (ms ++ ms') = contents name ms ++ contents name ms'
  := by
  rw [contents, List.filter_append, List.map_append]
  rfl

@[simp]
theorem contents_cons_same (name : String) (v : Json) (ms : List (String × Json)) :
  contents name ((name, v) :: ms) = v :: contents name ms
  := by
  simp [contents]

theorem contents_cons_of_ne {key : String} (h : key ≠ name) (v : Json)
    (ms : List (String × Json)) :
  contents name ((key, v) :: ms) = contents name ms
  := by
  simp [contents, h]

theorem contents_perm (name : String) (h : ms.Perm ms') :
  (contents name ms).Perm (contents name ms')
  := (h.filter _).map _

end Contents

/-! ### Fields -/

/-- A field of a record: its name, how it is read, and what stands for it if it may be left
out. -/
structure Field where
  name : String
  {Content : Type}
  read : Json → Read Content
  default? : Option Content

namespace Field

variable {f : Field} {values : List Json} {y : Option f.Content}

/-- What is read of a field from values of its name, of which there may be no second one. -/
def collect (f : Field) (present : Option f.Content) (values : List Json) :
    Read (Option f.Content) :=
  values.foldlM (fun present value => readOnce f.name present (f.read value)) present

/-- What is read of a field from the members of an object. -/
def find (f : Field) (ms : List (String × Json)) : Read (Option f.Content) :=
  f.collect none (contents f.name ms)

theorem collect_cons (present : Option f.Content) (v : Json) (values : List Json) :
  f.collect present (v :: values)
    = readOnce f.name present (f.read v) >>= fun present => f.collect present values
  := List.foldlM_cons

theorem collect_append (present : Option f.Content) (values values' : List Json) :
  f.collect present (values ++ values')
    = f.collect present values >>= fun present => f.collect present values'
  := List.foldlM_append

theorem collect_singleton (present : Option f.Content) (v : Json) :
  f.collect present [v] = readOnce f.name present (f.read v)
  := by
  rw [collect, List.foldlM_cons]
  apply bind_pure

/-- A field has no value, or a single one, of which its content is read. -/
theorem collect_none_eq_ok_iff :
  f.collect none values = .ok y
    ↔ (values = [] ∧ y = none) ∨ ∃ v x, values = [v] ∧ f.read v = .ok x ∧ y = some x
  := by
  constructor
  · intro h
    cases values with
    | nil =>
      left
      cases h
      exact ⟨rfl, rfl⟩
    | cons v values =>
      right
      obtain ⟨present, hread, h⟩ := bind_eq_ok_iff.mp h
      obtain ⟨x, hx, rfl⟩ := map_eq_ok_iff.mp hread
      cases values with
      | nil =>
        cases h
        exact ⟨v, x, rfl, hx, rfl⟩
      | cons v' values => cases h
  · rintro (⟨rfl, rfl⟩ | ⟨v, x, rfl, hread, rfl⟩)
    · rfl
    · rw [collect_singleton]
      apply map_eq_ok_iff.mpr ⟨x, hread, rfl⟩

end Field

/-! ### Slots of a state -/

/-- A place in a state for what is read of a field. -/
structure Slot (σ : Type) where
  field : Field
  get : σ → Option field.Content
  put : σ → Option field.Content → σ

/-- A step puts a member whose name is that of a slot into this slot, if nothing is in it yet,
and ignores all other members. -/
structure FillsSlots {σ : Type} (step : σ → String → Json → Read σ) (slots : List (Slot σ)) :
    Prop where
  distinct : (slots.map (·.field.name)).Nodup
  get_put : ∀ slot ∈ slots, ∀ state x, slot.get (slot.put state x) = x
  get_put_other : ∀ slot ∈ slots, ∀ other ∈ slots, other.field.name ≠ slot.field.name →
    ∀ state x, other.get (slot.put state x) = other.get state
  known : ∀ slot ∈ slots, ∀ state v, step state slot.field.name v
    = slot.put state <$> readOnce slot.field.name (slot.get state) (slot.field.read v)
  unknown : ∀ name, (∀ slot ∈ slots, slot.field.name ≠ name) →
    ∀ state v, step state name v = .ok state

namespace FillsSlots

variable {σ : Type} {step : σ → String → Json → Read σ} {slots : List (Slot σ)}
variable {ms ms' : List (String × Json)} {state state' : σ}

/-- A step does to each slot what its field says. -/
theorem collect_of_step (h : FillsSlots step slots) {name : String} {v : Json}
    (hstep : step state name v = .ok state') :
  ∀ slot ∈ slots, slot.field.collect (slot.get state) (contents slot.field.name [(name, v)])
    = .ok (slot.get state')
  := by
  intro slot hslot
  by_cases hname : ∃ known ∈ slots, known.field.name = name
  · obtain ⟨known, hknown, rfl⟩ := hname
    rw [h.known known hknown] at hstep
    obtain ⟨x, hx, rfl⟩ := map_eq_ok_iff.mp hstep
    by_cases hsame : slot.field.name = known.field.name
    · have hslots : slot = known := List.inj_on_of_nodup_map h.distinct hslot hknown hsame
      subst hslots
      rw [contents_cons_same, contents_nil, Field.collect_singleton, hx, h.get_put slot hslot]
    · rw [contents_cons_of_ne (Ne.symm hsame), contents_nil,
        h.get_put_other known hknown slot hslot hsame]
      rfl
  · push Not at hname
    rw [h.unknown name hname] at hstep
    cases hstep
    rw [contents_cons_of_ne (hname slot hslot).symm]
    rfl

/-- A step can be done when each field allows it. -/
theorem exists_step (h : FillsSlots step slots) {name : String} {v : Json}
    (hfields : ∀ slot ∈ slots,
      ∃ y, slot.field.collect (slot.get state) (contents slot.field.name [(name, v)]) = .ok y) :
  ∃ state', step state name v = .ok state'
  := by
  by_cases hname : ∃ known ∈ slots, known.field.name = name
  · obtain ⟨known, hknown, rfl⟩ := hname
    obtain ⟨y, hy⟩ := hfields known hknown
    rw [contents_cons_same, contents_nil, Field.collect_singleton] at hy
    use known.put state y
    rw [h.known known hknown, hy]
    rfl
  · push Not at hname
    use state
    apply h.unknown name hname

/-- Each slot holds what its field has among the members. -/
theorem collect_of_foldMembers (h : FillsSlots step slots)
    (hfold : foldMembers step state ms = .ok state') :
  ∀ slot ∈ slots, slot.field.collect (slot.get state) (contents slot.field.name ms)
    = .ok (slot.get state')
  := by
  intro slot hslot
  induction ms generalizing state with
  | nil =>
    cases hfold
    rfl
  | cons m ms ih =>
    obtain ⟨next, hstep, hfold⟩ := bind_eq_ok_iff.mp hfold
    rw [← List.singleton_append, contents_append, Field.collect_append,
      h.collect_of_step hstep slot hslot]
    apply ih hfold

/-- What a slot holds was read of a member of its name. -/
theorem exists_read_of_get (h : FillsSlots step slots) {slot : Slot σ} (hslot : slot ∈ slots)
    (hempty : slot.get state = none) (hfold : foldMembers step state ms = .ok state')
    {x : slot.field.Content} (hx : slot.get state' = some x) :
  ∃ m ∈ ms, m.1 = slot.field.name ∧ slot.field.read m.2 = .ok x
  := by
  have hcollect := h.collect_of_foldMembers hfold slot hslot
  rw [hempty, hx] at hcollect
  obtain ⟨-, hnone⟩ | ⟨v, x', hv, hread, hsame⟩ := Field.collect_none_eq_ok_iff.mp hcollect
  · cases hnone
  · cases hsame
    have hmem : v ∈ contents slot.field.name ms := by
      rw [hv]
      apply List.mem_singleton_self
    obtain ⟨m, hm, rfl⟩ := List.mem_map.mp hmem
    obtain ⟨hm, hname⟩ := List.mem_filter.mp hm
    exact ⟨m, hm, of_decide_eq_true hname, hread⟩

/-- The members can be taken when each field can be collected from them. -/
theorem exists_foldMembers (h : FillsSlots step slots)
    (hfields : ∀ slot ∈ slots,
      ∃ y, slot.field.collect (slot.get state) (contents slot.field.name ms) = .ok y) :
  ∃ state', foldMembers step state ms = .ok state'
  := by
  induction ms generalizing state with
  | nil => exact ⟨state, rfl⟩
  | cons m ms ih =>
    have hsplit : ∀ slot ∈ slots, ∃ present y,
        slot.field.collect (slot.get state) (contents slot.field.name [m]) = .ok present
          ∧ slot.field.collect present (contents slot.field.name ms) = .ok y := by
      intro slot hslot
      obtain ⟨y, hy⟩ := hfields slot hslot
      rw [← List.singleton_append, contents_append, Field.collect_append] at hy
      obtain ⟨present, hpresent, hy⟩ := bind_eq_ok_iff.mp hy
      exact ⟨present, y, hpresent, hy⟩
    obtain ⟨next, hnext⟩ : ∃ next, step state m.1 m.2 = .ok next := by
      apply h.exists_step
      intro slot hslot
      obtain ⟨present, -, hpresent, -⟩ := hsplit slot hslot
      exact ⟨present, hpresent⟩
    obtain ⟨state', hfold⟩ : ∃ state', foldMembers step next ms = .ok state' := by
      apply ih
      intro slot hslot
      obtain ⟨present, y, hpresent, hy⟩ := hsplit slot hslot
      rw [h.collect_of_step hnext slot hslot] at hpresent
      cases hpresent
      exact ⟨y, hy⟩
    use state'
    apply bind_eq_ok hnext hfold

end FillsSlots

/-! ### Agreement in fields -/

/-- Whatever is found of a field among the members `ms` is found among the members `ms'`, where
its default counts for a field that is left out. -/
def Agree (fields : List Field) (ms ms' : List (String × Json)) : Prop :=
  ∀ f ∈ fields, ∀ y, f.find ms = .ok y →
    ∃ y', f.find ms' = .ok y' ∧ y'.or f.default? = y.or f.default?

section Agree

variable {fields : List Field} {f : Field} {before after ms ms' : List (String × Json)}

/-- The order of the members does not matter. -/
theorem agree_of_perm (h : ms.Perm ms') :
  Agree fields ms ms'
  := by
  intro f _ y hy
  have hperm := contents_perm f.name h
  have hsame : contents f.name ms' = contents f.name ms := by
    obtain ⟨hnone, -⟩ | ⟨v, x, hv, -, -⟩ := Field.collect_none_eq_ok_iff.mp hy
    · rw [hnone] at hperm ⊢
      apply hperm.nil_eq.symm
    · rw [hv] at hperm ⊢
      apply List.perm_singleton.mp hperm.symm
  use y
  rw [Field.find, hsame]
  exact ⟨hy, rfl⟩

/-- Members that are no fields do not matter. -/
theorem agree_add {name : String} (hname : ∀ f ∈ fields, f.name ≠ name) (v : Json) :
  Agree fields (before ++ after) (before ++ (name, v) :: after)
  := by
  intro f hf y hy
  use y
  rw [Field.find, contents_append, contents_cons_of_ne (hname f hf).symm, ← contents_append]
  exact ⟨hy, rfl⟩

/-- Members that differ in a single field agree in all fields when they do in this one. -/
theorem agree_of_eq_elsewhere (hdistinct : (fields.map (·.name)).Nodup) (hf : f ∈ fields)
    (helsewhere : ∀ name, name ≠ f.name → contents name ms' = contents name ms)
    (hhere : ∀ y, f.find ms = .ok y →
      ∃ y', f.find ms' = .ok y' ∧ y'.or f.default? = y.or f.default?) :
  Agree fields ms ms'
  := by
  intro g hg y hy
  by_cases hname : g.name = f.name
  · have hsame : g = f := List.inj_on_of_nodup_map hdistinct hg hf hname
    subst hsame
    apply hhere y hy
  · use y
    rw [Field.find, helsewhere g.name hname]
    exact ⟨hy, rfl⟩

theorem contents_insert_of_ne {name key : String} (h : name ≠ key) (v : Json)
    (before after : List (String × Json)) :
  contents name (before ++ (key, v) :: after) = contents name (before ++ after)
  := by
  rw [contents_append, contents_cons_of_ne h.symm, ← contents_append]

/-- The content of a single member of a name is what is read of it. -/
theorem find_insert_of_absent {v : Json} {x : f.Content} (hv : f.read v = .ok x)
    (habsent : contents f.name (before ++ after) = []) :
  f.find (before ++ (f.name, v) :: after) = .ok (some x)
  := by
  rw [contents_append, List.append_eq_nil_iff] at habsent
  rw [Field.find, Field.collect_none_eq_ok_iff, contents_append, contents_cons_same, habsent.1,
    habsent.2]
  right
  exact ⟨v, x, rfl, hv, rfl⟩

/-- A member that is found is the only one of its name. -/
theorem absent_of_find_insert {v : Json} {y : Option f.Content}
    (hy : f.find (before ++ (f.name, v) :: after) = .ok y) :
  contents f.name (before ++ after) = [] ∧ ∃ x, f.read v = .ok x ∧ y = some x
  := by
  rw [Field.find, Field.collect_none_eq_ok_iff, contents_append, contents_cons_same] at hy
  obtain ⟨hnone, -⟩ | ⟨v', x, hv, hread, rfl⟩ := hy
  · simp at hnone
  · cases hbefore : contents f.name before with
    | nil =>
      rw [hbefore, List.nil_append, List.cons.injEq] at hv
      obtain ⟨rfl, hafter⟩ := hv
      rw [contents_append, hbefore, hafter]
      exact ⟨rfl, x, hread, rfl⟩
    | cons v'' values =>
      rw [hbefore] at hv
      simp at hv

/-- A field whose content is its default may be written. -/
theorem agree_write (hdistinct : (fields.map (·.name)).Nodup) (hf : f ∈ fields) {v : Json}
    {x : f.Content} (hx : f.default? = some x) (hv : f.read v = .ok x)
    (habsent : contents f.name (before ++ after) = []) :
  Agree fields (before ++ after) (before ++ (f.name, v) :: after)
  := by
  apply agree_of_eq_elsewhere hdistinct hf
  · intro name hname
    apply contents_insert_of_ne hname
  · intro y hy
    rw [Field.find, habsent] at hy
    cases hy
    use some x, find_insert_of_absent hv habsent
    rw [hx]
    rfl

/-- A field whose content is its default may be left out. -/
theorem agree_omit (hdistinct : (fields.map (·.name)).Nodup) (hf : f ∈ fields) {v : Json}
    {x : f.Content} (hx : f.default? = some x) (hv : f.read v = .ok x) :
  Agree fields (before ++ (f.name, v) :: after) (before ++ after)
  := by
  apply agree_of_eq_elsewhere hdistinct hf
  · intro name hname
    symm
    apply contents_insert_of_ne hname
  · intro y hy
    obtain ⟨habsent, x', hx', rfl⟩ := absent_of_find_insert hy
    rw [hv] at hx'
    cases hx'
    use none
    rw [Field.find, habsent, hx]
    exact ⟨rfl, rfl⟩

/-- A value may be put in place of another one that its field has the same content of. -/
theorem agree_replace (hdistinct : (fields.map (·.name)).Nodup) (hf : f ∈ fields) {v v' : Json}
    (h : ∀ x, f.read v = .ok x → f.read v' = .ok x) :
  Agree fields (before ++ (f.name, v) :: after) (before ++ (f.name, v') :: after)
  := by
  apply agree_of_eq_elsewhere hdistinct hf
  · intro name hname
    rw [contents_insert_of_ne hname, contents_insert_of_ne hname]
  · intro y hy
    obtain ⟨habsent, x, hx, rfl⟩ := absent_of_find_insert hy
    use some x, find_insert_of_absent (h x hx) habsent

/-- When members that can be taken agree with others, these can be taken as well, and the slots
hold the same then, where the default of a field counts for nothing in its slot. -/
theorem FillsSlots.foldMembers_of_agree {σ : Type} {step : σ → String → Json → Read σ}
    {slots : List (Slot σ)} (h : FillsSlots step slots) {empty state : σ}
    (hempty : ∀ slot ∈ slots, slot.get empty = none)
    (hagree : Agree (slots.map Slot.field) ms ms')
    (hfold : foldMembers step empty ms = .ok state) :
  ∃ state', foldMembers step empty ms' = .ok state' ∧ ∀ slot ∈ slots,
    (slot.get state').or slot.field.default? = (slot.get state).or slot.field.default?
  := by
  have hfound : ∀ slot ∈ slots, ∃ y', slot.field.find ms' = .ok y'
      ∧ y'.or slot.field.default? = (slot.get state).or slot.field.default? := by
    intro slot hslot
    have hcollect := h.collect_of_foldMembers hfold slot hslot
    rw [hempty slot hslot] at hcollect
    apply hagree slot.field (List.mem_map_of_mem hslot) _ hcollect
  obtain ⟨state', hstate'⟩ : ∃ state', foldMembers step empty ms' = .ok state' := by
    apply h.exists_foldMembers
    intro slot hslot
    obtain ⟨y', hy', -⟩ := hfound slot hslot
    rw [hempty slot hslot]
    exact ⟨y', hy'⟩
  use state', hstate'
  intro slot hslot
  obtain ⟨y', hy', hsame⟩ := hfound slot hslot
  have hcollect := h.collect_of_foldMembers hstate' slot hslot
  rw [hempty slot hslot] at hcollect
  rw [Field.find, hcollect] at hy'
  cases hy'
  apply hsame

/-- A record that is put together from the slots is kept when members agree. -/
theorem FillsSlots.keeps_of_agree {α σ : Type} {step : σ → String → Json → Read σ}
    {slots : List (Slot σ)} (h : FillsSlots step slots) {empty : σ}
    (hempty : ∀ slot ∈ slots, slot.get empty = none)
    (hagree : Agree (slots.map Slot.field) ms ms') {assemble : σ → Read α}
    (hassemble : ∀ state state',
      (∀ slot ∈ slots, (slot.get state').or slot.field.default?
        = (slot.get state).or slot.field.default?) →
      assemble state' = assemble state) :
  Keeps (foldMembers step empty ms >>= assemble) (foldMembers step empty ms' >>= assemble)
  := by
  intro a ha
  obtain ⟨state, hfold, ha⟩ := bind_eq_ok_iff.mp ha
  obtain ⟨state', hfold', hsame⟩ := h.foldMembers_of_agree hempty hagree hfold
  rw [← hassemble state state' hsame] at ha
  apply bind_eq_ok hfold' ha

theorem Agree.of_subset {fields' : List Field} (h : Agree fields ms ms')
    (hsubset : ∀ f ∈ fields', f ∈ fields) :
  Agree fields' ms ms'
  := fun f hf => h f (hsubset f hf)

end Agree

/-! ### Tags -/

section Tags

variable {α : Type} {field : String} {table : List (String × α)}
variable {ms ms' : List (String × Json)}

/-- The tag as a field. -/
abbrev tagField (field : String) (table : List (String × α)) : Field :=
  ⟨field, asTag table, none⟩

theorem tagOf_go_eq (found : Option α) (ms : List (String × Json)) :
  tagOf.go field table found ms
    = (tagField field table).collect found (contents field ms) >>= required field
  := by
  induction ms generalizing found with
  | nil =>
    cases found with
    | none => rfl
    | some a => rfl
  | cons m ms ih =>
    obtain ⟨name, v⟩ := m
    by_cases hname : name = field
    · subst hname
      rw [contents_cons_same]
      cases found with
      | some a =>
        rw [tagOf.go, if_pos rfl]
        rfl
      | none =>
        rw [tagOf.go, if_pos rfl]
        simp only [ih, Field.collect, List.foldlM_cons, readOnce, bind_map_left, bind_assoc]
    · rw [contents_cons_of_ne hname, ← ih]
      cases found with
      | some a => rw [tagOf.go, if_neg hname]
      | none => rw [tagOf.go, if_neg hname]

theorem tagOf_eq_ok_iff {a : α} :
  tagOf field table ms = .ok a ↔ (tagField field table).find ms = .ok (some a)
  := by
  rw [tagOf, tagOf_go_eq, bind_eq_ok_iff]
  constructor
  · rintro ⟨_ | a', h, ha⟩
    · cases ha
    · cases ha
      apply h
  · intro h
    exact ⟨some a, h, rfl⟩

/-- Members that agree in the tag have the same tag. -/
theorem tagOf_of_agree {fields : List Field} (hagree : Agree fields ms ms')
    (htag : tagField field table ∈ fields) :
  Keeps (tagOf field table ms) (tagOf field table ms')
  := by
  intro a ha
  rw [tagOf_eq_ok_iff] at ha ⊢
  obtain ⟨y', hy', hsame⟩ := hagree _ htag _ ha
  rw [hy']
  congr 1
  rw [Option.or_none, Option.or_none] at hsame
  apply hsame

end Tags

/-! ### Fields in an array -/

section InOrder

variable {α β : Type} (default : α) (read : Json → Read α) (k : α → Fields β)

/-- The next field of an array is read of its first item. -/
theorem takeAll_next (v : Json) (rest : List Json) :
  Fields.takeAll (Fields.next read >>= k) (v :: rest)
    = read v >>= fun a => Fields.takeAll (k a) rest
  := by
  have hrun : (Fields.next read).run (v :: rest) = read v >>= fun a => pure (a, rest) := rfl
  simp only [Fields.takeAll, StateT.run_bind, hrun, bind_assoc, pure_bind]

theorem takeAll_next_nil :
  Fields.takeAll (Fields.next read >>= k) [] = .error .wrongLength
  := rfl

theorem takeAll_nextOr (v : Json) (rest : List Json) :
  Fields.takeAll (Fields.nextOr default read >>= k) (v :: rest)
    = read v >>= fun a => Fields.takeAll (k a) rest
  := by
  have hrun : (Fields.nextOr default read).run (v :: rest)
      = read v >>= fun a => pure (a, rest) := rfl
  simp only [Fields.takeAll, StateT.run_bind, hrun, bind_assoc, pure_bind]

/-- What stands for a field is taken when no item is left. -/
theorem takeAll_nextOr_nil :
  Fields.takeAll (Fields.nextOr default read >>= k) [] = Fields.takeAll (k default) []
  := rfl

/-- No item may be left behind the last field. -/
theorem takeAll_pure (a : α) (items : List Json) :
  Fields.takeAll (pure a) items = if items.isEmpty then pure a else .error .wrongLength
  := by
  cases items with
  | nil => rfl
  | cons => rfl

end InOrder

end AliasBinding.Json
