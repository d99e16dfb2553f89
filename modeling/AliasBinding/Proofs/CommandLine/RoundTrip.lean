import AliasBinding.Proofs.CommandLine.Range
import Mathlib.Data.List.Nodup

/-!
# Requests written as command lines

A request is written as groups of arguments, one for the module, one for each switch that is on,
and one for each option, in any order; an option may be left out when its value is the default.
Reading the arguments group by group gives the settings of the groups read so far, whatever their
order (`Progress.Stands.exists_foldlM`), so the request is read back
(`parse_writes_and_inRange`).
-/

namespace AliasBinding

/-- The name of a format. -/
def Format.name : Format → String
  | .script => "script"
  | .source => "source"
  | .json => "json"

namespace CommandLine

/-! ### Written requests -/

/-- The argument does not look like an option. -/
def IsPlain (argument : String) : Prop := argument.toList.head? ≠ some '-'

instance (argument : String) : Decidable (IsPlain argument) :=
  inferInstanceAs (Decidable (argument.toList.head? ≠ some '-'))

/-- What a group of arguments is about. -/
inductive Item where
  | slot (slot : Slot)
  | switch (switch : Switch)
  deriving DecidableEq

namespace Request

/-- The text of the value that the request has for a slot. -/
def text? (r : Request) : Slot → Option String
  | .module => some r.module
  | .format => some r.format.name
  | .indent => some (toString r.indent)
  | .context => some r.context
  | .output => r.output?

/-- A group of arguments that writes an item of the request. -/
inductive Spells (r : Request) : Item → List String → Prop where
  | module : Spells r (.slot .module) [r.module]
  | verify (h : r.verify = true) : Spells r (.switch .verify) ["--verify"]
  | noQualify (h : r.qualify = false) : Spells r (.switch .noQualify) ["--no-qualify"]
  /-- The value is the next argument. -/
  | separate {slot : Slot} {value : String} (hslot : slot ≠ .module)
      (hvalue : r.text? slot = some value) : Spells r (.slot slot) [slot.name, value]
  /-- The value is attached with `=`. -/
  | attached {slot : Slot} {value : String} (hslot : slot ≠ .module)
      (hvalue : r.text? slot = some value) :
      Spells r (.slot slot) [slot.name ++ "=" ++ value]
  /-- The output has a short name as well. -/
  | short {path : String} (hpath : r.output? = some path) : Spells r (.slot .output) ["-o", path]

/-- The groups write the request: no item is written twice, the module is written, and what is
left out is as it is by default. -/
structure Writes (r : Request) (groups : List (Item × List String)) : Prop where
  spells : ∀ g ∈ groups, r.Spells g.1 g.2
  distinct : (groups.map Prod.fst).Nodup
  module : .slot .module ∈ groups.map Prod.fst
  verify : r.verify = true → .switch .verify ∈ groups.map Prod.fst
  noQualify : r.qualify = false → .switch .noQualify ∈ groups.map Prod.fst
  format : r.format ≠ .script → .slot .format ∈ groups.map Prod.fst
  indent : r.indent ≠ 4 → .slot .indent ∈ groups.map Prod.fst
  context : r.context ≠ "Context" → .slot .context ∈ groups.map Prod.fst
  output : r.output? ≠ none → .slot .output ∈ groups.map Prod.fst

/-- The request can be written: its paths are not empty and do not look like options, and its
other values are in range. -/
structure IsWritable (r : Request) : Prop where
  module_ne_empty : r.module ≠ ""
  module_isPlain : IsPlain r.module
  output_ne_empty : ∀ path ∈ r.output?, path ≠ ""
  output_isPlain : ∀ path ∈ r.output?, IsPlain path
  indent_le : r.indent ≤ 16
  isContextName : isContextName r.context = true

theorem IsWritable.isPlain_of_text? {r : Request} (hr : r.IsWritable) {slot : Slot}
    {value : String} (h : r.text? slot = some value) :
  IsPlain value
  := by
  cases slot with
  | module =>
    cases h
    apply hr.module_isPlain
  | format =>
    cases h
    cases r.format with
    | script | source | json => decide
  | indent =>
    have hindent : ∀ n < 17, IsPlain (toString n) := by decide
    cases h
    apply hindent r.indent (Nat.lt_succ_of_le hr.indent_le)
  | context =>
    cases h
    have hname := hr.isContextName
    rw [CommandLine.isContextName, Bool.and_eq_true] at hname
    apply Text.head?_ne_of_isIdentifier (by decide) hname.1
  | output => apply hr.output_isPlain value h

end Request

/-! ### Settings -/

/-- The settings that come of some items of a request. -/
def Settings.ofItems (r : Request) (items : List Item) : Settings where
  module? := if .slot .module ∈ items then some r.module else none
  format? := if .slot .format ∈ items then some r.format else none
  indent? := if .slot .indent ∈ items then some r.indent else none
  context? := if .slot .context ∈ items then some r.context else none
  output? := if .slot .output ∈ items then r.output? else none
  verify := decide (.switch .verify ∈ items)
  noQualify := decide (.switch .noQualify ∈ items)

namespace Settings

variable {r : Request} {items : List Item}

/-- A further value goes to its slot. -/
theorem assign_ofItems (hr : r.IsWritable) {slot : Slot} (hnew : .slot slot ∉ items)
    {value : String} (hvalue : r.text? slot = some value) :
  (ofItems r items).assign slot value = .ok (ofItems r (.slot slot :: items))
  := by
  cases slot with
  | module =>
    cases hvalue
    simp [assign, fill, nonempty, ofItems, hnew, hr.module_ne_empty]
  | format =>
    have hname : Format.ofName? r.format.name = some r.format := by
      cases r.format with
      | script | source | json => rfl
    cases hvalue
    simp [assign, fill, checked, ofItems, hnew, hname]
  | indent =>
    have hindents : ∀ n < 17, indentWidth? (toString n) = some n := by decide
    have hindent := hindents r.indent (Nat.lt_succ_of_le hr.indent_le)
    cases hvalue
    rw [assign, hindent]
    simp [fill, checked, ofItems, hnew]
  | context =>
    cases hvalue
    simp [assign, fill, ofItems, hnew, hr.isContextName]
  | output =>
    have hpath : r.output? = some value := hvalue
    have hne := hr.output_ne_empty value hpath
    simp [assign, fill, nonempty, ofItems, hnew, hpath, hne]

/-- A further switch is turned on. -/
theorem turnOn_ofItems {switch : Switch} (hnew : .switch switch ∉ items) :
  (ofItems r items).turnOn switch = .ok (ofItems r (.switch switch :: items))
  := by
  cases switch with
  | verify => simp [turnOn, ofItems, hnew]
  | noQualify => simp [turnOn, ofItems, hnew]

end Settings

/-! ### Arguments -/

/-- The name of a long option ends at the first `=`. -/
theorem splitLong_append {name : String} (hname : '=' ∉ name.toList) (value : String) :
  splitLong (name ++ "=" ++ value) = (name, some value)
  := by
  have htext : (name ++ "=" ++ value).toList = name.toList ++ '=' :: value.toList := by simp
  have hne : ∀ c ∈ name.toList, (c != '=') = true := by
    intro c hc
    rw [bne_iff_ne]
    rintro rfl
    apply hname hc
  have htake : (name ++ "=" ++ value).toList.takeWhile (· != '=') = name.toList := by
    rw [htext, List.takeWhile_append_of_pos hne]
    simp
  rw [splitLong, htake, htext]
  simp

/-- A text without a sign in front is taken for a value. -/
theorem Progress.step_of_isPlain {p : Progress} (hp : p.valuesOnly = false) {argument : String}
    (h : IsPlain argument) :
  p.step argument
    = match p.pending? with
      | some (slot, none) => .ok { p with pending? := some (slot, some argument) }
      | _ => p.positional argument
  := by
  rw [Progress.step, hp, IsPlain] at *
  cases htext : argument.toList with
  | nil => rfl
  | cons c rest =>
    rw [htext, List.head?_cons, ne_eq, Option.some.injEq] at h
    simp only [Bool.false_eq_true, if_false]
    split
    · simp_all
    · simp_all
    · simp_all
    · rfl

/-- Two dashes begin the name of a long option. -/
theorem Progress.step_of_dashes {p : Progress} (hp : p.valuesOnly = false) {argument : String}
    {c : Char} {rest : List Char} (h : argument.toList = '-' :: '-' :: c :: rest) :
  p.step argument = p.long argument
  := by
  rw [Progress.step, hp, h]
  rfl

theorem Slot.toList_name {slot : Slot} (hslot : slot ≠ .module) :
  ∃ c rest, slot.name.toList = '-' :: '-' :: c :: rest
  := by
  cases slot with
  | module => exact absurd rfl hslot
  | format | indent | context | output => exact ⟨_, _, rfl⟩

theorem lookup_longOptions {slot : Slot} (hslot : slot ≠ .module) :
  longOptions.lookup slot.name = some (.option slot)
  := by
  cases slot with
  | module => exact absurd rfl hslot
  | format | indent | context | output => decide

theorem Progress.step_attached {p : Progress} (hp : p.valuesOnly = false) {slot : Slot}
    (hslot : slot ≠ .module) (value : String) :
  p.step (slot.name ++ "=" ++ value) = p.attached slot value
  := by
  have hname : '=' ∉ slot.name.toList := by
    cases slot with
    | module | format | indent | context | output => decide
  obtain ⟨c, rest, hdashes⟩ := Slot.toList_name hslot
  have htext : (slot.name ++ "=" ++ value).toList
      = '-' :: '-' :: c :: (rest ++ '=' :: value.toList) := by
    simp [hdashes]
  simp only [step_of_dashes hp htext, Progress.long, splitLong_append hname,
    lookup_longOptions hslot]

theorem Progress.step_awaiting {p : Progress} (hp : p.valuesOnly = false) {slot : Slot}
    (hslot : slot ≠ .module) :
  p.step slot.name = p.awaiting slot
  := by
  have hsplit : splitLong slot.name = (slot.name, none) := by
    cases slot with
    | module | format | indent | context | output => decide
  obtain ⟨c, rest, hdashes⟩ := Slot.toList_name hslot
  simp only [step_of_dashes hp hdashes, Progress.long, hsplit, lookup_longOptions hslot]

theorem Progress.step_switch {p : Progress} (hp : p.valuesOnly = false) (switch : Switch) :
  p.step switch.name
    = (do let p ← p.settle; return { p with settings := ← p.settings.turnOn switch })
  := by
  have hlong : p.step switch.name = p.long switch.name := by
    cases switch with
    | verify | noQualify => apply step_of_dashes hp rfl
  have hsplit : splitLong switch.name = (switch.name, none) := by
    cases switch with
    | verify | noQualify => decide
  have hflag : longOptions.lookup switch.name = some (.switch switch) := by
    cases switch with
    | verify | noQualify => decide
  simp only [hlong, Progress.long, hsplit, hflag]

theorem Progress.step_short {p : Progress} (hp : p.valuesOnly = false) :
  p.step "-o" = p.awaiting .output
  := by
  rw [Progress.step, hp]
  rfl

/-! ### Reading what is written -/

/-- The arguments read so far wrote the items of the request: their values are in the settings,
but for the one that may be put aside. -/
inductive Progress.Stands (r : Request) : List Item → Progress → Prop where
  | settled (items : List Item) : Stands r items { settings := .ofItems r items }
  | pending {items : List Item} {slot : Slot} {value : String} (hnew : .slot slot ∉ items)
      (hvalue : r.text? slot = some value) :
      Stands r (.slot slot :: items)
        { settings := .ofItems r items, pending? := some (slot, some value) }

namespace Progress

variable {r : Request} {items : List Item} {p : Progress}

theorem Stands.valuesOnly (h : Stands r items p) :
  p.valuesOnly = false
  := by
  cases h with
  | settled => rfl
  | pending => rfl

theorem Stands.settle (hr : r.IsWritable) (h : Stands r items p) :
  p.settle = .ok { settings := .ofItems r items }
  := by
  cases h with
  | settled => rfl
  | pending hnew hvalue =>
    apply bind_eq_ok (Settings.assign_ofItems hr hnew hvalue)
    rfl

/-- A further value that is attached to its option. -/
theorem Stands.attached (hr : r.IsWritable) (h : Stands r items p) {slot : Slot}
    (hnew : .slot slot ∉ items) {value : String} (hvalue : r.text? slot = some value) :
  ∃ p', p.attached slot value = .ok p' ∧ Stands r (.slot slot :: items) p'
  := by
  use { settings := .ofItems r (.slot slot :: items) }
  constructor
  · rw [Progress.attached, h.settle hr]
    apply bind_eq_ok rfl
    apply bind_eq_ok (Settings.assign_ofItems hr hnew hvalue)
    rfl
  · apply Stands.settled

/-- A further value that stands behind its option. -/
theorem Stands.awaiting (hr : r.IsWritable) (h : Stands r items p) {slot : Slot}
    (hnew : .slot slot ∉ items) {value : String} (hvalue : r.text? slot = some value) :
  ∃ p', (do let p ← p.awaiting slot; p.step value) = .ok p'
    ∧ Stands r (.slot slot :: items) p'
  := by
  use { settings := .ofItems r items, pending? := some (slot, some value) }
  constructor
  · have hawaiting : p.awaiting slot
        = .ok { settings := .ofItems r items, pending? := some (slot, none) } := by
      rw [Progress.awaiting, h.settle hr]
      rfl
    apply bind_eq_ok hawaiting
    rw [step_of_isPlain rfl (hr.isPlain_of_text? hvalue)]
  · apply Stands.pending hnew hvalue

/-- The module, when it is not written yet. -/
theorem Stands.module (hr : r.IsWritable) (h : Stands r items p)
    (hnew : .slot .module ∉ items) :
  ∃ p', p.step r.module = .ok p' ∧ Stands r (.slot .module :: items) p'
  := by
  use { settings := .ofItems r items, pending? := some (.module, some r.module) }
  constructor
  · have hpositional : p.step r.module = p.positional r.module := by
      rw [step_of_isPlain h.valuesOnly hr.module_isPlain]
      cases h with
      | settled => rfl
      | pending => rfl
    have hfree : p.positional r.module
        = (do let p ← p.settle; return { p with pending? := some (.module, some r.module) }) := by
      rw [positional, if_neg]
      cases h with
      | settled => simp [Settings.ofItems, hnew]
      | @pending items slot =>
        cases slot with
        | module => exact absurd List.mem_cons_self hnew
        | format | indent | context | output => simp_all [Settings.ofItems]
    rw [hpositional, hfree, h.settle hr]
    rfl
  · apply Stands.pending hnew rfl

/-- A further switch. -/
theorem Stands.switch (hr : r.IsWritable) (h : Stands r items p) {switch : Switch}
    (hnew : .switch switch ∉ items) :
  ∃ p', p.step switch.name = .ok p' ∧ Stands r (.switch switch :: items) p'
  := by
  use { settings := .ofItems r (.switch switch :: items) }
  constructor
  · rw [step_switch h.valuesOnly, h.settle hr]
    apply bind_eq_ok rfl
    apply bind_eq_ok (Settings.turnOn_ofItems hnew)
    rfl
  · apply Stands.settled

/-- A group of arguments brings about the settings of its item. -/
theorem Stands.exists_foldlM_group (hr : r.IsWritable) (h : Stands r items p) {item : Item}
    (hnew : item ∉ items) {arguments : List String} (hspells : r.Spells item arguments) :
  ∃ p', arguments.foldlM Progress.step p = .ok p' ∧ Stands r (item :: items) p'
  := by
  have hone (argument : String) : [argument].foldlM Progress.step p = p.step argument := by
    simp only [List.foldlM_cons, List.foldlM_nil, bind_pure]
  have htwo (option value : String) :
      [option, value].foldlM Progress.step p = (do let p ← p.step option; p.step value) := by
    simp only [List.foldlM_cons, List.foldlM_nil, bind_pure]
  cases hspells with
  | module =>
    rw [hone]
    apply h.module hr hnew
  | verify =>
    rw [hone]
    apply h.switch hr hnew
  | noQualify =>
    rw [hone]
    apply h.switch hr hnew
  | separate hslot hvalue =>
    rw [htwo, step_awaiting h.valuesOnly hslot]
    apply h.awaiting hr hnew hvalue
  | attached hslot hvalue =>
    rw [hone, step_attached h.valuesOnly hslot]
    apply h.attached hr hnew hvalue
  | short hpath =>
    rw [htwo, step_short h.valuesOnly]
    apply h.awaiting hr hnew hpath

/-- Groups of arguments, one after the other, bring about the settings of their items. -/
theorem Stands.exists_foldlM (hr : r.IsWritable) (h : Stands r items p)
    {groups : List (Item × List String)} (hspells : ∀ g ∈ groups, r.Spells g.1 g.2)
    (hdistinct : ((groups.map Prod.fst).reverse ++ items).Nodup) :
  ∃ p', (groups.flatMap Prod.snd).foldlM Progress.step p = .ok p'
    ∧ Stands r ((groups.map Prod.fst).reverse ++ items) p'
  := by
  induction groups generalizing items p with
  | nil =>
    use p
    exact ⟨rfl, h⟩
  | cons g groups ih =>
    obtain ⟨item, arguments⟩ := g
    rw [List.forall_mem_cons] at hspells
    rw [List.map_cons, List.reverse_cons, List.append_assoc, List.singleton_append]
      at hdistinct ⊢
    have hnew : item ∉ items := (List.nodup_cons.mp (List.nodup_append.mp hdistinct).2.1).1
    obtain ⟨p₁, hgroup, hp₁⟩ := h.exists_foldlM_group hr hnew hspells.1
    obtain ⟨p₂, hgroups, hp₂⟩ := ih hp₁ hspells.2 hdistinct
    use p₂
    constructor
    · rw [List.flatMap_cons, List.foldlM_append]
      apply bind_eq_ok hgroup hgroups
    · apply hp₂

end Progress

/-- What may be left out only where it is the default. -/
theorem ite_eq_of_ne_default {α : Type} {p : Prop} [Decidable p] {a d : α} (h : a ≠ d → p) :
  (if p then a else d) = a
  := by
  rw [ite_eq_left_iff]
  intro hp
  by_contra hne
  apply hp (h (Ne.symm hne))

theorem getD_ite_eq_of_ne_default {α : Type} {p : Prop} [Decidable p] {a d : α}
    (h : a ≠ d → p) :
  (if p then some a else none).getD d = a
  := by
  rw [apply_ite (Option.getD · d), Option.getD_some, Option.getD_none]
  apply ite_eq_of_ne_default h

namespace Request

variable {r : Request} {groups : List (Item × List String)}

theorem Writes.verify_iff (h : r.Writes groups) :
  .switch .verify ∈ groups.map Prod.fst ↔ r.verify = true
  := by
  constructor
  · intro hmem
    obtain ⟨⟨item, arguments⟩, hg, rfl⟩ := List.mem_map.mp hmem
    cases h.spells _ hg with
    | verify hverify => apply hverify
  · apply h.verify

theorem Writes.noQualify_iff (h : r.Writes groups) :
  .switch .noQualify ∈ groups.map Prod.fst ↔ r.qualify = false
  := by
  constructor
  · intro hmem
    obtain ⟨⟨item, arguments⟩, hg, rfl⟩ := List.mem_map.mp hmem
    cases h.spells _ hg with
    | noQualify hqualify => apply hqualify
  · apply h.noQualify

/-- All items of a request together come to the request. -/
theorem Writes.toRequest_ofItems (h : r.Writes groups) :
  (Settings.ofItems r (groups.map Prod.fst).reverse).toRequest = .ok r
  := by
  have hmodule := h.module
  have hverify : decide (.switch .verify ∈ groups.map Prod.fst) = r.verify := by
    simp only [h.verify_iff, Bool.decide_eq_true]
  have hqualify : (!decide (.switch .noQualify ∈ groups.map Prod.fst)) = r.qualify := by
    simp only [h.noQualify_iff, Bool.decide_eq_false, Bool.not_not]
  have hformat := getD_ite_eq_of_ne_default h.format
  have hindent := getD_ite_eq_of_ne_default h.indent
  have hcontext := getD_ite_eq_of_ne_default h.context
  have houtput := ite_eq_of_ne_default h.output
  simp only [Settings.toRequest, Settings.ofItems, List.mem_reverse, hmodule, if_true, hverify,
    hqualify, houtput]
  congr

end Request

/-! ### Requests and command lines -/

theorem parse_generate (arguments : List String) :
  parse ("generate" :: arguments) = requestOf arguments
  := rfl

/-- An indentation in range goes to the style as it is. -/
theorem Request.indent_style {r : Request} (h : r.indent ≤ Style.maxIndent) :
  r.style.indent = r.indent
  := Nat.min_eq_left h

/-- A request is read back from every command line that writes it. -/
theorem parse_of_writes {r : Request} (hr : r.IsWritable) {groups : List (Item × List String)}
    (h : r.Writes groups) :
  parse ("generate" :: groups.flatMap Prod.snd) = .ok r
  := by
  have hdistinct : ((groups.map Prod.fst).reverse ++ []).Nodup := by
    rw [List.append_nil, List.nodup_reverse]
    apply h.distinct
  obtain ⟨p, hp, hstands⟩ :=
    Progress.Stands.exists_foldlM hr (.settled []) h.spells hdistinct
  rw [List.append_nil] at hstands
  rw [parse_generate]
  apply bind_eq_ok hp
  apply bind_eq_ok (hstands.settle hr)
  apply h.toRequest_ofItems

/-- A request that can be written is read back from every command line that writes it, and its
indentation is that of its style.  The request of any command line that is accepted has an
indentation and a context in range, and its indentation is that of its style as well. -/
theorem parse_writes_and_inRange :
  (∀ (r : Request) (groups : List (Item × List String)), r.IsWritable → r.Writes groups →
    parse ("generate" :: groups.flatMap Prod.snd) = .ok r ∧ r.style.indent = r.indent)
  ∧ (∀ (arguments : List String) (r : Request), parse arguments = .ok r →
    r.indent ≤ 16 ∧ isContextName r.context = true ∧ r.style.indent = r.indent)
  := by
  constructor
  · intro r groups hr h
    exact ⟨parse_of_writes hr h, Request.indent_style hr.indent_le⟩
  · intro arguments r h
    have hrange := (inRange_parse arguments).of_eq_ok r h
    exact ⟨hrange.indent_le, hrange.isContextName, Request.indent_style hrange.indent_le⟩

/-- A request without any default. -/
def toolsRequest : Request where
  module := "lib/Tools.dll"
  verify := true
  format := .json
  qualify := false
  indent := 2
  context := "Host"
  output? := some "aliases.json"

/-- A way to write the request, with the module in the middle. -/
def toolsGroups : List (Item × List String) := [
  (.switch .verify, ["--verify"]), (.slot .format, ["--format", "json"]),
  (.slot .indent, ["--indent=2"]), (.slot .module, ["lib/Tools.dll"]),
  (.slot .output, ["-o", "aliases.json"]), (.switch .noQualify, ["--no-qualify"]),
  (.slot .context, ["--context", "Host"])]

theorem parse_writes_and_inRange_tools :
  toolsRequest.IsWritable ∧ toolsRequest.Writes toolsGroups
  ∧ parse ["generate", "--verify", "--format", "json", "--indent=2", "lib/Tools.dll",
      "-o", "aliases.json", "--no-qualify", "--context", "Host"] = .ok toolsRequest
  ∧ toolsRequest.indent ≤ 16 ∧ isContextName toolsRequest.context = true
  ∧ toolsRequest.style.indent = 2
  := by
  have hr : toolsRequest.IsWritable := {
    module_ne_empty := by decide
    module_isPlain := by decide
    output_ne_empty := by decide
    output_isPlain := by decide
    indent_le := by decide
    isContextName := by decide }
  have h : toolsRequest.Writes toolsGroups := {
    spells := by
      have hformat : Slot.format ≠ .module := by decide
      have hindent : Slot.indent ≠ .module := by decide
      have hcontext : Slot.context ≠ .module := by decide
      simp only [toolsGroups, List.forall_mem_cons]
      exact ⟨.verify rfl, .separate hformat rfl, .attached hindent rfl, .module, .short rfl,
        .noQualify rfl, .separate hcontext rfl, nofun⟩
    distinct := by decide
    module := by decide
    verify := by decide
    noQualify := by decide
    format := by decide
    indent := by decide
    context := by decide
    output := by decide }
  obtain ⟨hparse, hstyle⟩ := parse_writes_and_inRange.1 toolsRequest toolsGroups hr h
  obtain ⟨hindent, hcontext, -⟩ := parse_writes_and_inRange.2 _ toolsRequest hparse
  exact ⟨hr, h, hparse, hindent, hcontext, hstyle⟩

end CommandLine

end AliasBinding
