import AliasBinding.Manifest.AliasShape
import AliasBinding.Proofs.Manifest.TypeFields

/-!
# The fields of an alias

A default, a parameter, a type parameter, an obsolete mark or an alias that is written as an
object is kept when its members agree in its fields, which for a default and an alias are those
of its kind.
-/

namespace AliasBinding

open Json

/-! ### Defaults -/

namespace Constant

/-- The tag of a default. -/
abbrev kindField : Field := ⟨"kind", asPlainVariant Kind.table, none⟩

/-- The value of a default of the given kind, which stands for the default. -/
abbrev valueField (kind : Kind) : Field :=
  ⟨"value", fun v => ofValue v kind, (ofNothing kind).toOption⟩

/-- The fields of a default of the given kind. -/
def fields (kind : Kind) : List Field := [kindField, valueField kind]

/-- The tags among the members `kind` and `value`. -/
def tags : List (Bool × Json) → List Json
  | [] => []
  | (true, v) :: rest => v :: tags rest
  | (false, _) :: rest => tags rest

/-- The values among the members `kind` and `value`. -/
def values : List (Bool × Json) → List Json
  | [] => []
  | (true, _) :: rest => values rest
  | (false, v) :: rest => v :: values rest

theorem eq_nil_iff {rs : List (Bool × Json)} :
  rs = [] ↔ tags rs = [] ∧ values rs = []
  := by
  rcases rs with _ | ⟨⟨_ | _, v⟩, rs⟩
  · simp [tags, values]
  · simp [values]
  · simp [tags]

theorem contents_relevant (ms : List (String × Json)) :
  contents "kind" ms = tags (relevant ms) ∧ contents "value" ms = values (relevant ms)
  := by
  induction ms with
  | nil => exact ⟨rfl, rfl⟩
  | cons m ms ih =>
    obtain ⟨name, v⟩ := m
    by_cases hkind : name = "kind"
    · subst hkind
      have hcons : relevant (("kind", v) :: ms) = (true, v) :: relevant ms := rfl
      rw [hcons, contents_cons_same, contents_cons_of_ne (by decide), ih.1, ih.2]
      exact ⟨rfl, rfl⟩
    · by_cases hvalue : name = "value"
      · subst hvalue
        have hcons : relevant (("value", v) :: ms) = (false, v) :: relevant ms := rfl
        rw [hcons, contents_cons_same, contents_cons_of_ne (by decide), ih.1, ih.2]
        exact ⟨rfl, rfl⟩
      · have hcons : relevant ((name, v) :: ms) = relevant ms := by
          simp [relevant, hkind, hvalue]
        rw [hcons, contents_cons_of_ne hkind, contents_cons_of_ne hvalue]
        apply ih

theorem last_eq_ok_iff {c c' : Constant} {rs : List (Bool × Json)} :
  c.last rs = .ok c' ↔ rs = [] ∧ c = c'
  := by
  rcases rs with _ | ⟨⟨_ | _, v⟩, rs⟩
  · simp [last]
  · simp [last]
  · simp [last]

/-- A default is read when there is a tag and, unless it needs none, a value, in whatever
order. -/
theorem ofRelevant_eq_ok_iff {rs : List (Bool × Json)} {c : Constant} :
  ofRelevant rs = .ok c
    ↔ ∃ tag kind, tags rs = [tag] ∧ asPlainVariant Kind.table tag = .ok kind
      ∧ ((values rs = [] ∧ ofNothing kind = .ok c)
        ∨ ∃ v, values rs = [v] ∧ ofValue v kind = .ok c)
  := by
  rcases rs with _ | ⟨⟨_ | _, v⟩, _ | ⟨⟨_ | _, v'⟩, rs⟩⟩
  · simp [ofRelevant, tags]
  · simp [ofRelevant, tags]
  · simp [ofRelevant, values]
  · simp only [ofRelevant, tags, values, bind_eq_ok_iff, last_eq_ok_iff, eq_nil_iff,
      List.cons.injEq]
    constructor
    · rintro ⟨kind, hkind, c', hvalue, ⟨htags, hvalues⟩, rfl⟩
      exact ⟨v', kind, ⟨rfl, htags⟩, hkind, .inr ⟨v, ⟨rfl, hvalues⟩, hvalue⟩⟩
    · rintro ⟨tag, kind, ⟨rfl, htags⟩, hkind, ⟨hvalues, -⟩ | ⟨_, ⟨rfl, hvalues⟩, hvalue⟩⟩
      · cases hvalues
      · exact ⟨kind, hkind, c, hvalue, ⟨htags, hvalues⟩, rfl⟩
  · simp [ofRelevant, tags, values, bind_eq_ok_iff]
  · simp only [ofRelevant, tags, values, bind_eq_ok_iff, last_eq_ok_iff, eq_nil_iff,
      List.cons.injEq]
    constructor
    · rintro ⟨kind, hkind, c', hvalue, ⟨htags, hvalues⟩, rfl⟩
      exact ⟨v, kind, ⟨rfl, htags⟩, hkind, .inr ⟨v', ⟨rfl, hvalues⟩, hvalue⟩⟩
    · rintro ⟨tag, kind, ⟨rfl, htags⟩, hkind, ⟨hvalues, -⟩ | ⟨_, ⟨rfl, hvalues⟩, hvalue⟩⟩
      · cases hvalues
      · exact ⟨kind, hkind, c, hvalue, ⟨htags, hvalues⟩, rfl⟩
  · simp [ofRelevant, tags, bind_eq_ok_iff]

/-- A default is its value, or what needs no value if it has none. -/
theorem ofJson_object_eq_ok_iff {ms : List (String × Json)} {kind : Kind}
    (hkind : kindField.find ms = .ok (some kind)) {c : Constant} :
  ofJson (.object ms) = .ok c
    ↔ ∃ y, (valueField kind).find ms = .ok y ∧ y.or (valueField kind).default? = some c
  := by
  have htoOption : (ofNothing kind).toOption = some c ↔ ofNothing kind = .ok c := by
    cases ofNothing kind with
    | error e => simp [Except.toOption]
    | ok c' => simp [Except.toOption]
  obtain ⟨htags, hvalues⟩ := contents_relevant ms
  obtain ⟨-, hnone⟩ | ⟨tag, _, htag, hread, hsame⟩ := Field.collect_none_eq_ok_iff.mp hkind
  · cases hnone
  cases hsame
  have hfind (y : Option Constant) : (valueField kind).find ms = .ok y
      ↔ (contents "value" ms = [] ∧ y = none)
        ∨ ∃ v c, contents "value" ms = [v] ∧ ofValue v kind = .ok c ∧ y = some c :=
    Field.collect_none_eq_ok_iff
  simp only [hfind]
  rw [ofJson, ofRelevant_eq_ok_iff, ← htags, ← hvalues]
  constructor
  · rintro ⟨tag', kind', htag', hread', h⟩
    cases htag.symm.trans htag'
    cases hread.symm.trans hread'
    obtain ⟨hnone, hc⟩ | ⟨v, hv, hc⟩ := h
    · exact ⟨none, .inl ⟨hnone, rfl⟩, htoOption.mpr hc⟩
    · exact ⟨some c, .inr ⟨v, c, hv, hc, rfl⟩, rfl⟩
  · rintro ⟨y, ⟨hnone, rfl⟩ | ⟨v, c', hv, hc', rfl⟩, hc⟩
    · exact ⟨tag, kind, htag, hread, .inl ⟨hnone, htoOption.mp hc⟩⟩
    · cases hc
      exact ⟨tag, kind, htag, hread, .inr ⟨v, hv, hc'⟩⟩

theorem keeps_object {kind : Kind} {ms ms' : List (String × Json)}
    (hkind : kindField.find ms = .ok (some kind)) (hagree : Agree (fields kind) ms ms') :
  Keeps (ofJson (.object ms)) (ofJson (.object ms'))
  := by
  have hkind' : kindField.find ms' = .ok (some kind) := by
    obtain ⟨y', hy', hsame⟩ := hagree kindField List.mem_cons_self _ hkind
    cases y' with
    | none => cases hsame
    | some kind' =>
      cases hsame
      apply hy'
  intro c hc
  rw [ofJson_object_eq_ok_iff hkind] at hc
  rw [ofJson_object_eq_ok_iff hkind']
  obtain ⟨y, hy, hc⟩ := hc
  obtain ⟨y', hy', hsame⟩ := hagree (valueField kind) (by simp [fields]) y hy
  exact ⟨y', hy', hsame.trans hc⟩

end Constant

/-! ### Parameters, type parameters and obsolete marks -/

namespace Parameter

/-- The fields of a parameter, with the places where they are kept. -/
def slots : List (Slot Partial) := [
  ⟨⟨"name", asString, none⟩, Partial.name?, fun s x => { s with name? := x }⟩,
  ⟨⟨"type", TypeExpr.ofJson, none⟩, Partial.type?, fun s x => { s with type? := x }⟩,
  ⟨⟨"modifier", asPlainVariant Passing.table, some .value⟩, Partial.passing?,
    fun s x => { s with passing? := x }⟩,
  ⟨⟨"default", asOption Constant.ofJson, some none⟩, Partial.default?,
    fun s x => { s with default? := x }⟩]

/-- The fields of a parameter. -/
def fields : List Field := slots.map Slot.field

theorem fillsSlots_read :
  FillsSlots Partial.read slots
  where
    distinct := by decide
    get_put := by simp [slots]
    get_put_other := by simp [slots]
    known := by simp [slots, Partial.read]
    unknown := by
      intro name hname state v
      unfold Partial.read
      split
      all_goals simp [slots] at hname ⊢

theorem keeps_object {ms ms' : List (String × Json)} (hagree : Agree fields ms ms') :
  Keeps (ofJson (.object ms)) (ofJson (.object ms'))
  := by
  have hempty : ∀ slot ∈ slots, slot.get {} = none := by simp [slots]
  apply fillsSlots_read.keeps_of_agree hempty hagree
  intro state state' h
  simp only [slots, List.forall_mem_cons, Option.or_none, Option.or_some,
    Option.some.injEq] at h
  simp only [Partial.assemble, h]

end Parameter

namespace TypeParameter

/-- The fields of a type parameter, with the places where they are kept. -/
def slots : List (Slot Partial) := [
  ⟨⟨"name", asString, none⟩, Partial.name?, fun s x => { s with name? := x }⟩,
  ⟨⟨"constraints", asList Constraint.ofJson, some []⟩, Partial.constraints?,
    fun s x => { s with constraints? := x }⟩]

/-- The fields of a type parameter. -/
def fields : List Field := slots.map Slot.field

theorem fillsSlots_read :
  FillsSlots Partial.read slots
  where
    distinct := by decide
    get_put := by simp [slots]
    get_put_other := by simp [slots]
    known := by simp [slots, Partial.read]
    unknown := by
      intro name hname state v
      unfold Partial.read
      split
      all_goals simp [slots] at hname ⊢

theorem keeps_object {ms ms' : List (String × Json)} (hagree : Agree fields ms ms') :
  Keeps (ofJson (.object ms)) (ofJson (.object ms'))
  := by
  have hempty : ∀ slot ∈ slots, slot.get {} = none := by simp [slots]
  apply fillsSlots_read.keeps_of_agree hempty hagree
  intro state state' h
  simp only [slots, List.forall_mem_cons, Option.or_none, Option.or_some,
    Option.some.injEq] at h
  simp only [Partial.assemble, h]

end TypeParameter

namespace Obsolete

/-- The fields of an obsolete mark, with the places where they are kept. -/
def slots : List (Slot Partial) := [
  ⟨⟨"message", asOption asString, some none⟩, Partial.message?,
    fun s x => { s with message? := x }⟩,
  ⟨⟨"error", asBool, some false⟩, Partial.isError?, fun s x => { s with isError? := x }⟩]

/-- The fields of an obsolete mark. -/
def fields : List Field := slots.map Slot.field

theorem fillsSlots_read :
  FillsSlots Partial.read slots
  where
    distinct := by decide
    get_put := by simp [slots]
    get_put_other := by simp [slots]
    known := by simp [slots, Partial.read]
    unknown := by
      intro name hname state v
      unfold Partial.read
      split
      all_goals simp [slots] at hname ⊢

theorem keeps_object {ms ms' : List (String × Json)} (hagree : Agree fields ms ms') :
  Keeps (ofJson (.object ms)) (ofJson (.object ms'))
  := by
  have hempty : ∀ slot ∈ slots, slot.get {} = none := by simp [slots]
  apply fillsSlots_read.keeps_of_agree hempty hagree
  intro state state' h
  simp only [slots, List.forall_mem_cons, Option.or_some, Option.some.injEq] at h
  simp only [Partial.assemble, h]

end Obsolete

/-! ### Members and aliases -/

namespace Member

/-- The fields of a member of the given kind, with the places where they are kept. -/
def slots : Kind → List (Slot Partial)
  | .method => [
      ⟨⟨"name", asString, none⟩, Partial.name?, fun s x => { s with name? := x }⟩,
      ⟨⟨"declaring_type", TypeExpr.ofJson, none⟩, Partial.owner?,
        fun s x => { s with owner? := x }⟩,
      ⟨⟨"return_type", TypeExpr.ofJson, none⟩, Partial.type?,
        fun s x => { s with type? := x }⟩,
      ⟨⟨"parameters", asList Parameter.ofJson, some []⟩, Partial.parameters?,
        fun s x => { s with parameters? := x }⟩,
      ⟨⟨"generic_parameters", asList TypeParameter.ofJson, some []⟩, Partial.typeParameters?,
        fun s x => { s with typeParameters? := x }⟩,
      ⟨⟨"obsolete", asOption Obsolete.ofJson, some none⟩, Partial.obsolete?,
        fun s x => { s with obsolete? := x }⟩]
  | .property => [
      ⟨⟨"name", asString, none⟩, Partial.name?, fun s x => { s with name? := x }⟩,
      ⟨⟨"declaring_type", TypeExpr.ofJson, none⟩, Partial.owner?,
        fun s x => { s with owner? := x }⟩,
      ⟨⟨"property_type", TypeExpr.ofJson, none⟩, Partial.type?,
        fun s x => { s with type? := x }⟩,
      ⟨⟨"cached", asBool, some false⟩, Partial.cached?, fun s x => { s with cached? := x }⟩,
      ⟨⟨"obsolete", asOption Obsolete.ofJson, some none⟩, Partial.obsolete?,
        fun s x => { s with obsolete? := x }⟩]

/-- The tag of a member. -/
abbrev tag : Field := tagField "kind" Kind.table

/-- The fields of a member of the given kind. -/
def fields (kind : Kind) : List Field := tag :: (slots kind).map Slot.field

theorem fillsSlots_read (kind : Kind) :
  FillsSlots (Partial.read kind) (slots kind)
  where
    distinct := by
      cases kind with
      | method | property => decide
    get_put := by
      cases kind with
      | method | property => simp [slots]
    get_put_other := by
      cases kind with
      | method | property => simp [slots]
    known := by
      cases kind with
      | method | property => simp [slots, Partial.read]
    unknown := by
      intro name hname state v
      cases kind with
      | method | property =>
        unfold Partial.read
        split
        all_goals
          first
            | contradiction
            | simp [slots] at hname ⊢

theorem keeps_ofMembers {kind : Kind} {ms ms' : List (String × Json)}
    (htag : tagOf "kind" Kind.table ms = .ok kind) (hagree : Agree (fields kind) ms ms') :
  Keeps (ofMembers ms) (ofMembers ms')
  := by
  have hempty : ∀ slot ∈ slots kind, slot.get {} = none := by
    cases kind with
    | method | property => simp [slots]
  have htag' := tagOf_of_agree hagree List.mem_cons_self kind htag
  have hslots : Agree ((slots kind).map Slot.field) ms ms' :=
    hagree.of_subset fun f hf => List.mem_cons_of_mem tag hf
  rw [ofMembers, ofMembers, htag, htag']
  apply (fillsSlots_read kind).keeps_of_agree hempty hslots
  intro state state' h
  cases kind with
  | method | property =>
    simp only [slots, List.forall_mem_cons, Option.or_none, Option.or_some,
      Option.some.injEq] at h
    simp only [Partial.assemble, h]

end Member

namespace Alias

/-- The namespaces of an alias. -/
abbrev namespacesField : Field := ⟨"namespaces", asList asString, some []⟩

/-- The fields of an alias whose member is of the given kind. -/
def fields (kind : Member.Kind) : List Field := namespacesField :: Member.fields kind

/-- The members of an alias that are not its namespaces. -/
def others (ms : List (String × Json)) : List (String × Json) :=
  ms.filter (·.1 ≠ "namespaces")

theorem others_cons_same (v : Json) (ms : List (String × Json)) :
  others (("namespaces", v) :: ms) = others ms
  := by
  simp [others]

theorem others_cons_of_ne {name : String} (h : name ≠ "namespaces") (v : Json)
    (ms : List (String × Json)) :
  others ((name, v) :: ms) = (name, v) :: others ms
  := by
  simp [others, h]

theorem contents_others {name : String} (hname : name ≠ "namespaces")
    (ms : List (String × Json)) :
  contents name (others ms) = contents name ms
  := by
  rw [contents, contents, others, List.filter_filter]
  congr 1
  apply List.filter_congr
  intro m _
  by_cases h : m.1 = name
  · simp [h, hname]
  · simp [h]

theorem partition_eq (ms : List (String × Json)) :
  ms.partition (·.1 == "namespaces") = (ms.filter (·.1 == "namespaces"), others ms)
  := by
  rw [List.partition_eq_filter_filter, others]
  congr 2
  funext m
  simp [beq_eq_decide]

/-- An alias is its namespaces and the member that the other members make. -/
theorem ofJson_object_eq_ok_iff {ms : List (String × Json)} {a : Alias} :
  ofJson (.object ms) = .ok a
    ↔ ∃ y member, namespacesField.find ms = .ok y ∧ Member.ofMembers (others ms) = .ok member
      ∧ (⟨.ofList (y.getD []), member⟩ : Alias) = a
  := by
  have hcontents :
      contents "namespaces" ms = (ms.filter (·.1 == "namespaces")).map (·.2) := by
    rw [contents]
    congr 2
  rw [ofJson, partition_eq, Field.find, hcontents]
  generalize ms.filter (·.1 == "namespaces") = namespaces
  rcases namespaces with _ | ⟨⟨name, v⟩, _ | ⟨m, namespaces⟩⟩
  · simp [Field.collect, bind_eq_ok_iff, pure, Except.pure]
  · simp only [List.map_cons, List.map_nil, Field.collect_singleton, readOnce, map_eq_ok_iff,
      bind_eq_ok_iff, pure, Except.pure, Except.ok.injEq]
    constructor
    · rintro ⟨names, hnames, member, hmember, ha⟩
      exact ⟨some names, member, ⟨names, hnames, rfl⟩, hmember, ha⟩
    · rintro ⟨_, member, ⟨names, hnames, rfl⟩, hmember, ha⟩
      exact ⟨names, hnames, member, hmember, ha⟩
  · constructor
    · intro h
      cases h
    · rintro ⟨y, member, hy, -⟩
      obtain ⟨hnone, -⟩ | ⟨v', names, hv, -⟩ := Field.collect_none_eq_ok_iff.mp hy
      · cases hnone
      · cases hv

/-- The tag of an alias is a field of its own. -/
theorem keeps_object {kind : Member.Kind} {ms ms' : List (String × Json)}
    (htag : tagOf "kind" Member.Kind.table ms = .ok kind) (hagree : Agree (fields kind) ms ms') :
  Keeps (ofJson (.object ms)) (ofJson (.object ms'))
  := by
  have hfind {f : Field} (hf : f ∈ Member.fields kind) (ms : List (String × Json)) :
      f.find (others ms) = f.find ms := by
    have hname : f.name ≠ "namespaces" := by
      revert f
      cases kind with
      | method | property => simp [Member.fields, Member.slots]
    rw [Field.find, contents_others hname, Field.find]
  have hothers : Agree (Member.fields kind) (others ms) (others ms') := by
    intro f hf y hy
    rw [hfind hf] at hy ⊢
    apply hagree f (List.mem_cons_of_mem _ hf) y hy
  have htag' : tagOf "kind" Member.Kind.table (others ms) = .ok kind := by
    rw [tagOf_eq_ok_iff] at htag ⊢
    rw [hfind List.mem_cons_self]
    apply htag
  intro a ha
  rw [ofJson_object_eq_ok_iff] at ha ⊢
  obtain ⟨y, member, hy, hmember, rfl⟩ := ha
  obtain ⟨y', hy', hsame⟩ := hagree namespacesField List.mem_cons_self y hy
  refine ⟨y', member, hy', Member.keeps_ofMembers htag' hothers member hmember, ?_⟩
  rw [Option.or_some, Option.or_some, Option.some.injEq] at hsame
  rw [hsame]

end Alias

end AliasBinding
