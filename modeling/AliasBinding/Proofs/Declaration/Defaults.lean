import AliasBinding.Proofs.Declaration.Forwarding
import AliasBinding.Proofs.Text.TopLevel
import AliasBinding.Proofs.TypeText.Skeleton

/-!
# Defaults stay in their parameters

The texts of proper types and of constants are closed: whatever a string or a character holds, and
however types are nested, no comma and no equals sign of theirs is on the top level.  So a
parameter list is cut at the commas on the top level into its parameters, and each of these at its
first sign into what declares the name and the text of the default alone
(`Parameter.topItems_listText`).
-/

namespace AliasBinding

open Text

/-- The characters that separate: the comma between parameters, and the sign in front of a
default. -/
def separators : List Char := [',', '=']

/-! ### Texts of types -/

namespace Skeleton

theorem closed_pathText {path : List String} (h : ∀ segment ∈ path, IsSpelling segment) :
  Closed separators (pathText path).toList
  := by
  have hspecial : ∀ d ∈ delimiters ++ separators,
      continuesIdentifier d = false ∧ d ≠ '@' ∧ d ≠ '.' :=
    List.all_iff_forall_prop.mp (by decide)
  apply Closed.of_forall _ fun c hc => hc
  intro d hd
  obtain ⟨hcontinues, hmark, hdot⟩ := hspecial d hd
  apply TypeExpr.notMem_pathText h hcontinues hmark hdot

theorem closed_commaList {texts : List String} (h : ∀ text ∈ texts, Closed [] text.toList) :
  Closed [] (commaList texts).toList
  := by
  rw [commaList, String.toList_intercalate]
  apply Closed.intercalate (Closed.of_all (by decide))
  rw [List.forall_mem_map]
  apply h

theorem closed_argumentList {texts : List String} (h : ∀ text ∈ texts, Closed [] text.toList) :
  Closed separators (argumentList texts).toList
  := by
  cases texts with
  | nil => apply Closed.nil
  | cons text texts =>
    rw [argumentList_cons, String.toList_append, String.toList_append]
    apply Closed.bracketed rfl (by decide) (closed_commaList h) Closed.nil

theorem closed_suffixes (suffixes : List Suffix) :
  Closed separators (String.join (suffixes.map Suffix.text)).toList
  := by
  induction suffixes with
  | nil => apply Closed.nil
  | cons suffix suffixes ih =>
    rw [List.map_cons, String.join_cons, String.toList_append]
    apply Closed.append _ ih
    cases suffix with
    | question => apply Closed.of_all (by decide)
    | rank commas =>
      rw [Suffix.text, String.toList_ofList]
      have hcommas : Closed [] (List.replicate commas ',') := by
        apply Closed.of_notMem
        intro c hc
        rw [List.eq_of_mem_replicate hc]
        decide
      apply Closed.bracketed rfl (by decide) hcommas Closed.nil

mutual

theorem closed_text :
  ∀ s : Skeleton, (∀ path ∈ s.paths, ∀ segment ∈ path, IsSpelling segment) →
    Closed separators s.text.toList
  | .mk path arguments suffixes, h => by
    rw [paths, List.forall_mem_cons] at h
    rw [text, String.toList_append, String.toList_append]
    have harguments := closed_argumentList (closed_texts arguments h.2)
    exact ((closed_pathText h.1).append harguments).append (closed_suffixes suffixes)

theorem closed_texts :
  ∀ ss : List Skeleton, (∀ path ∈ pathsIn ss, ∀ segment ∈ path, IsSpelling segment) →
    ∀ text ∈ texts ss, Closed [] text.toList
  | [], _ => nofun
  | s :: ss, h => by
    rw [pathsIn, List.forall_mem_append] at h
    rw [texts, List.forall_mem_cons]
    exact ⟨(closed_text s h.1).mono (List.nil_subset _), closed_texts ss h.2⟩

end

end Skeleton

theorem closed_of_isSpelling {s : String} (h : IsSpelling s) :
  Closed separators s.toList
  := by
  rw [← Skeleton.pathText_singleton s]
  apply Skeleton.closed_pathText
  rw [List.forall_mem_singleton]
  apply h

namespace TypeExpr

theorem IsProper.closed_text {qualify : Bool} {t : TypeExpr} {written : String} (h : t.IsProper)
    (hwritten : t.text qualify = .ok written) :
  Closed separators written.toList
  := by
  obtain ⟨-, rfl⟩ := text_eq_ok_iff.mp hwritten
  apply Skeleton.closed_text
  intro path hpath
  apply (h.isSpelling_of_mem_paths hpath).2

/-- The text of a proper type starts with a name. -/
theorem IsProper.hasHead {qualify : Bool} {t : TypeExpr} {written : String} (h : t.IsProper)
    (hwritten : t.text qualify = .ok written) :
  HasHead written
  := by
  obtain ⟨-, rfl⟩ := text_eq_ok_iff.mp hwritten
  cases hskeleton : t.skeleton qualify with
  | mk path arguments suffixes =>
    have hmem : path ∈ (t.skeleton qualify).paths := by
      rw [hskeleton, Skeleton.paths]
      apply List.mem_cons_self
    obtain ⟨hne, hpath⟩ := h.isSpelling_of_mem_paths hmem
    cases hlist : (Skeleton.pathText path).toList with
    | nil =>
      have hempty := Skeleton.pathText_ne_empty hne fun segment hs => (hpath segment hs).ne_empty
      exact absurd (String.toList_eq_nil_iff.mp hlist) hempty
    | cons c rest =>
      have htext : (Skeleton.mk path arguments suffixes).text.toList = c :: (rest
          ++ (Skeleton.argumentList (Skeleton.texts arguments)
            ++ String.join (suffixes.map Suffix.text)).toList) := by
        rw [Skeleton.text, String.append_assoc, String.toList_append, hlist, List.cons_append]
      refine ⟨c, _, htext, ?_⟩
      rintro rfl
      have hspace := notMem_pathText hpath (c := ' ') (by decide) (by decide) (by decide)
      rw [hlist] at hspace
      exact hspace List.mem_cons_self

end TypeExpr

/-! ### Numbers -/

/-- Characters of numbers are no delimiters and do not separate. -/
theorem closed_of_forall_digit {cs : List Char}
    (h : ∀ c ∈ cs, c.isDigit = true ∨ c = '.' ∨ c = '-') :
  Closed separators cs
  := Closed.of_forall (List.all_iff_forall_prop.mp (by decide)) h

theorem toList_intToString (n : Int) :
  (toString n).toList = (if n < 0 then ['-'] else []) ++ Nat.toDigits 10 n.natAbs
  := by
  cases n with
  | ofNat m =>
    rw [if_neg (by simp)]
    exact String.toList_ofList
  | negSucc m =>
    rw [if_pos (Int.negSucc_lt_zero m)]
    change ("-" ++ m.succ.repr).toList = _
    rw [String.toList_append, Nat.toList_repr]
    rfl

theorem isDigit_of_mem_toDigits {n : Nat} {c : Char} (h : c ∈ Nat.toDigits 10 n) :
  c.isDigit = true
  := Nat.isDigit_of_mem_toDigits (by decide) (by decide) h

theorem closed_intToString (n : Int) :
  Closed separators (toString n).toList
  := by
  rw [toList_intToString]
  have hdigits : Closed separators (Nat.toDigits 10 n.natAbs) :=
    closed_of_forall_digit fun c hc => .inl (isDigit_of_mem_toDigits hc)
  apply Closed.append _ hdigits
  split
  · apply Closed.of_all (by decide)
  · apply Closed.nil

/-- The number that digits stand for. -/
def readDigits? (cs : List Char) : Option Nat :=
  if cs ≠ [] ∧ cs.all Char.isDigit then some (Nat.ofDigitChars 10 cs 0) else none

/-- The number that digits stand for, maybe with a minus in front. -/
def readNumber? (cs : List Char) : Option Int :=
  if cs.head? = some '-' then (readDigits? cs.tail).map fun (n : Nat) => -(n : Int)
  else (readDigits? cs).map Int.ofNat

/-- The number that stands behind a cast.  There a minus would be a subtraction, unless it is in
brackets. -/
def readOperand? (cs : List Char) : Option Int :=
  if cs.head? = some '(' then
    if cs.getLast? = some ')' then readNumber? cs.tail.dropLast else none
  else (readDigits? cs).map Int.ofNat

/-- The number that is the value of an integer constant, which may have a cast in front. -/
def readInteger? (s : String) : Option Int :=
  if s.toList.head? = some '(' then readOperand? (behindBracket s.toList)
  else readNumber? s.toList

theorem readDigits?_toDigits (n : Nat) :
  readDigits? (Nat.toDigits 10 n) = some n
  := by
  rw [readDigits?, if_pos, Nat.ofDigitChars_toDigits (by decide) (by decide)]
  exact ⟨Nat.toDigits_ne_nil, List.all_eq_true.mpr fun c hc => isDigit_of_mem_toDigits hc⟩

theorem head?_toDigits_ne {c : Char} (hc : c.isDigit = false) (n : Nat) :
  (Nat.toDigits 10 n).head? ≠ some c
  := by
  intro hhead
  have hdigit := isDigit_of_mem_toDigits (List.mem_of_mem_head? hhead)
  rw [hc] at hdigit
  cases hdigit

theorem readNumber?_intToString (n : Int) :
  readNumber? (toString n).toList = some n
  := by
  rw [toList_intToString]
  split
  case isTrue hneg =>
    rw [List.singleton_append, readNumber?, if_pos List.head?_cons, List.tail_cons,
      readDigits?_toDigits, Option.map_some, Int.ofNat_natAbs_of_nonpos (Int.le_of_lt hneg),
      Int.neg_neg]
  case isFalse hneg =>
    rw [List.nil_append, readNumber?, if_neg (head?_toDigits_ne (by decide) _),
      readDigits?_toDigits, Option.map_some, Int.ofNat_eq_natCast,
      Int.natAbs_of_nonneg (Int.not_lt.mp hneg)]

/-! ### Constants -/

namespace Constant

section Integers

variable {qualify : Bool} {t : TypeExpr} {n : Int64} {text : String}

/-- An integer constant is a number, or a number behind a cast, in brackets if it is negative. -/
theorem integerText_eq_ok (h : integerText qualify t n = .ok text) :
  text = toString n.toInt ∨ ∃ cast, t.text qualify = .ok cast
    ∧ (text.toList = '(' :: (cast.toList ++ ')' :: '(' :: ((toString n.toInt).toList ++ [')']))
      ∨ 0 ≤ n.toInt ∧ text.toList = '(' :: (cast.toList ++ ')' :: (toString n.toInt).toList))
  := by
  rw [integerText] at h
  split at h
  case isFalse =>
    cases h
    exact .inl rfl
  case isTrue =>
    obtain ⟨cast, hcast, h⟩ := bind_eq_ok_iff.mp h
    refine .inr ⟨cast, hcast, ?_⟩
    split at h
    case isTrue hneg =>
      cases h
      left
      simp
    case isFalse hneg =>
      cases h
      have hlt : n < 0 ↔ n.toInt < 0 := Int64.lt_iff_toInt_lt
      rw [hlt, Int.not_lt] at hneg
      refine .inr ⟨hneg, ?_⟩
      simp

variable (ht : t.IsProper) (h : integerText qualify t n = .ok text)

include ht h

theorem closed_integerText :
  Closed separators text.toList
  := by
  have hn := closed_intToString n.toInt
  obtain rfl | ⟨cast, hcast, htext | ⟨-, htext⟩⟩ := integerText_eq_ok h
  · apply hn
  · rw [htext]
    apply Closed.bracketed rfl (by decide) (ht.closed_text hcast)
    apply Closed.bracketed rfl (by decide) hn Closed.nil
  · rw [htext]
    apply Closed.bracketed rfl (by decide) (ht.closed_text hcast) hn

/-- An integer is read back from its text. -/
theorem readInteger?_integerText :
  readInteger? text = some n.toInt
  := by
  have hread := readNumber?_intToString n.toInt
  obtain rfl | ⟨cast, hcast, htext | ⟨hpos, htext⟩⟩ := integerText_eq_ok h
  · rw [readInteger?, if_neg, hread]
    rw [toList_intToString]
    split
    · simp
    · apply head?_toDigits_ne (by decide)
  · rw [readInteger?, htext, if_pos List.head?_cons,
      behindBracket_bracketed rfl (ht.closed_text hcast), readOperand?, if_pos List.head?_cons,
      ← List.cons_append, if_pos List.getLast?_concat, List.cons_append, List.tail_cons,
      List.dropLast_concat, hread]
  · rw [readInteger?, htext, if_pos List.head?_cons,
      behindBracket_bracketed rfl (ht.closed_text hcast), toList_intToString,
      if_neg (Int.not_lt.mpr hpos), List.nil_append, readOperand?,
      if_neg (head?_toDigits_ne (by decide) _), readDigits?_toDigits, Option.map_some,
      Int.ofNat_eq_natCast, Int.natAbs_of_nonneg hpos]

end Integers

theorem closed_realText (x : Float) :
  Closed separators (realText x).toList
  := by
  have hdecimal : ∀ c ∈ (Text.decimal x).toList, c.isDigit = true ∨ c = '.' ∨ c = '-' := by
    rw [Text.decimal, String.toList_ofList]
    intro c hc
    apply mem_decimalOfBits hc
  have hclosed := closed_of_forall_digit hdecimal
  rw [realText]
  split
  · apply hclosed
  · rw [String.toList_append]
    apply hclosed.append (Closed.of_all (by decide))

theorem closed_realSuffix (t : TypeExpr) :
  Closed separators t.realSuffix.toList
  := by
  unfold TypeExpr.realSuffix
  split
  · apply Closed.of_all (by decide)
  · apply Closed.of_all (by decide)
  · apply Closed.nil

/-- Whatever a constant holds, its text is closed. -/
theorem closed_text {qualify : Bool} {name : String} {t : TypeExpr} {c : Constant}
    {text : String} (ht : t.IsProper) (h : c.text qualify name t = .ok text) :
  Closed separators text.toList
  := by
  cases c with
  | null =>
    cases h
    apply Closed.of_all (by decide)
  | bool b =>
    cases h
    cases b with
    | true | false => apply Closed.of_all (by decide)
  | integer n => apply closed_integerText (TypeExpr.forall_occurs_underlying ht) h
  | float x =>
    rw [Constant.text] at h
    split at h
    case isTrue =>
      cases h
      rw [String.toList_append]
      apply (closed_realText x).append (closed_realSuffix t.underlying)
    case isFalse => cases h
  | string s =>
    cases h
    rw [stringLiteral, String.toList_ofList]
    apply Closed.quoted (.inl rfl) (by decide)
  | char c =>
    cases h
    rw [charLiteral, String.toList_ofList]
    apply Closed.quoted (.inr rfl) (by decide)
  | zero =>
    obtain ⟨type, htype, h⟩ := bind_eq_ok_iff.mp h
    cases h
    have htext : ("default(" ++ type ++ ")").toList
        = "default".toList ++ '(' :: (type.toList ++ [')']) := by
      simp
    rw [htext]
    apply Closed.append (Closed.of_all (by decide))
    apply Closed.bracketed rfl (by decide) (ht.closed_text htype) Closed.nil

end Constant

/-! ### Items on the top level -/

/-- A text that can be told apart between the commas on the top level. -/
structure IsTopItem (item : String) : Prop where
  closed : Closed [','] item.toList
  hasHead : HasHead item

theorem IsTopItem.comma_notMem {item : String} (h : IsTopItem item) :
  (',', true) ∉ Place.top.marked item.toList
  := h.closed.notMem_marked List.mem_cons_self

theorem marked_commaList {items : List String} (h : ∀ item ∈ items, IsTopItem item) :
  Place.top.marked (commaList items).toList
    = [(',', true), (' ', true)].intercalate (items.map fun item => Place.top.marked item.toList)
  := by
  induction items with
  | nil => rfl
  | cons item items ih =>
    obtain ⟨hitem, hitems⟩ := List.forall_mem_cons.mp h
    cases items with
    | nil =>
      rw [commaList, String.intercalate_singleton, List.map_singleton, List.intercalate_singleton]
    | cons next items =>
      have hlist : (commaList (item :: next :: items)).toList
          = item.toList ++ ',' :: ' ' :: (commaList (next :: items)).toList := by
        rw [commaList, String.intercalate_cons_cons, String.toList_append, String.toList_append,
          List.append_assoc]
        rfl
      have hmarked := ih hitems
      rw [List.map_cons] at hmarked
      -- behind a closed item the comma and the space are on the top level
      rw [hlist, hitem.closed.marked_append, List.map_cons, List.map_cons,
        List.intercalate_cons_cons, ← hmarked, List.append_assoc]
      rfl

/-- The items of a list on the top level are those that it was made of. -/
theorem topItems_commaList {items : List String} (h : ∀ item ∈ items, IsTopItem item) :
  topItems (commaList items) = items
  := by
  cases items with
  | nil => rfl
  | cons item items =>
    obtain ⟨hitem, hitems⟩ := List.forall_mem_cons.mp h
    have hne : commaList (item :: items) ≠ "" :=
      intercalate_ne_empty ", " hitem.hasHead.ne_empty items
    have hlists : ∀ ms ∈ items.map fun item => Place.top.marked item.toList, (',', true) ∉ ms :=
      List.forall_mem_map.mpr fun t ht => (hitems t ht).comma_notMem
    have htexts : (items.map fun t => String.ofList
        (((' ', true) :: Place.top.marked t.toList).map Prod.fst |>.dropWhile (· = ' ')))
        = items.map id := by
      apply List.map_congr_left
      intro t ht
      rw [List.map_cons, Place.map_fst_marked, List.dropWhile_cons_of_pos rfl,
        (hitems t ht).hasHead.dropWhile_toList, String.ofList_toList, id]
    rw [topItems, if_neg hne, marked_commaList h, List.map_cons,
      splitOn_intercalate_pair (by decide) hitem.comma_notMem hlists, List.map_cons, List.map_map,
      List.map_map, Place.map_fst_marked, hitem.hasHead.dropWhile_toList, String.ofList_toList]
    apply congrArg (item :: ·) (htexts.trans (List.map_id items))

/-! ### Parameters -/

namespace Parameter

/-- A parameter in front of its default, with the text of its type. -/
def declared (p : Parameter) (type : String) : String :=
  leading p.passing.keyword? ++ type ++ " " ++ escaped p.name

/-- The text is that of the parameter, and the parameter is read off it: the name at the end of
what stands in front of the sign, and the default alone behind it. -/
structure IsReadFrom (qualify : Bool) (p : Parameter) (item : String) : Prop where
  text_eq : p.text qualify = .ok item
  name_eq : ∃ front, (cutAtSign item).1 = front ++ " " ++ escaped p.name
  isSome_default : (cutAtSign item).2.isSome = p.default?.isSome
  default_eq : ∀ c ∈ p.default?, ∃ text, c.text qualify p.name p.type = .ok text
    ∧ (cutAtSign item).2 = some text
  integer_eq : ∀ n, p.default? = some (.integer n) →
    (cutAtSign item).2.bind readInteger? = some n.toInt

section Items

variable {qualify : Bool} {p : Parameter}

theorem defaultText_eq_ok {default : String} (h : p.defaultText qualify = .ok default) :
  (p.default? = none ∧ default = "")
    ∨ ∃ c text, p.default? = some c ∧ c.text qualify p.name p.type = .ok text
      ∧ default = " = " ++ text
  := by
  rw [defaultText] at h
  split at h
  case h_1 hnone =>
    cases h
    exact .inl ⟨hnone, rfl⟩
  case h_2 c hsome =>
    split at h
    case isTrue =>
      obtain ⟨text, htext, h⟩ := bind_eq_ok_iff.mp h
      cases h
      exact .inr ⟨c, text, hsome, htext, rfl⟩
    case isFalse => cases h

/-- The text of a parameter is what declares it, and its default behind a sign if it has one. -/
theorem text_eq_ok {item : String} (h : p.text qualify = .ok item) :
  ∃ type, isIdentifier p.name = true ∧ p.type.text qualify = .ok type
    ∧ (p.default? = none ∧ item = p.declared type
      ∨ ∃ c text, p.default? = some c ∧ c.text qualify p.name p.type = .ok text
        ∧ item = p.declared type ++ " = " ++ text)
  := by
  obtain ⟨name, hname, h⟩ := bind_eq_ok_iff.mp h
  obtain ⟨type, htype, h⟩ := bind_eq_ok_iff.mp h
  obtain ⟨default, hdefault, h⟩ := bind_eq_ok_iff.mp h
  cases h
  obtain ⟨hidentifier, rfl⟩ := declaredName_eq_ok_iff.mp hname
  refine ⟨type, hidentifier, htype, ?_⟩
  obtain ⟨hnone, rfl⟩ | ⟨c, text, hsome, htext, rfl⟩ := defaultText_eq_ok hdefault
  · left
    rw [String.append_empty]
    exact ⟨hnone, rfl⟩
  · right
    refine ⟨c, text, hsome, htext, ?_⟩
    rw [← String.append_assoc]
    rfl

variable {type : String} (hproper : p.type.IsProper) (htype : p.type.text qualify = .ok type)

include hproper htype

theorem hasHead_declared :
  HasHead (p.declared type)
  := by
  rw [declared]
  apply HasHead.append
  apply HasHead.append
  cases p.passing with
  | value =>
    rw [Passing.keyword?, leading, String.empty_append]
    apply hproper.hasHead htype
  | receiver | reference | output | input | rest =>
    apply HasHead.append
    exact ⟨_, _, rfl, by decide⟩

theorem closed_declared (hname : isIdentifier p.name = true) :
  Closed separators (p.declared type).toList
  := by
  have hkeyword : Closed separators (leading p.passing.keyword?).toList := by
    cases p.passing with
    | value => apply Closed.nil
    | receiver | reference | output | input | rest => apply Closed.of_all (by decide)
  have hspace : Closed separators " ".toList := Closed.of_all (by decide)
  have hescaped : Closed separators (escaped p.name).toList :=
    closed_of_isSpelling (isSpelling_escaped hname)
  rw [declared, String.toList_append, String.toList_append, String.toList_append]
  exact ((hkeyword.append (hproper.closed_text htype)).append hspace).append hescaped

end Items

theorem isTopItem_of_text {qualify : Bool} {p : Parameter} {item : String}
    (hproper : p.type.IsProper) (h : p.text qualify = .ok item) :
  IsTopItem item
  := by
  obtain ⟨type, hname, htype, hitem⟩ := text_eq_ok h
  have hclosed := closed_declared hproper htype hname
  have hhead := hasHead_declared hproper htype
  have hcomma : [','] ⊆ separators := by decide
  obtain ⟨-, rfl⟩ | ⟨c, text, -, htext, rfl⟩ := hitem
  · exact ⟨hclosed.mono hcomma, hhead⟩
  · constructor
    case closed =>
      rw [String.toList_append, String.toList_append]
      have hsign : Closed [','] " = ".toList := Closed.of_all (by decide)
      have hdefault := (Constant.closed_text hproper htext).mono hcomma
      exact ((hclosed.mono hcomma).append hsign).append hdefault
    case hasHead =>
      rw [String.append_assoc]
      apply hhead.append

theorem isReadFrom_of_text {qualify : Bool} {p : Parameter} {item : String}
    (hproper : p.type.IsProper) (h : p.text qualify = .ok item) :
  p.IsReadFrom qualify item
  := by
  obtain ⟨type, hname, htype, hitem⟩ := text_eq_ok h
  have hclosed := closed_declared hproper htype hname
  have hsign : '=' ∈ separators := by decide
  obtain ⟨hnone, rfl⟩ | ⟨c, text, hsome, htext, rfl⟩ := hitem
  · have hcut := cutAtSign_of_closed hclosed hsign
    constructor
    case text_eq => apply h
    case name_eq =>
      rw [hcut]
      exact ⟨_, rfl⟩
    case isSome_default =>
      rw [hcut, hnone]
      rfl
    case default_eq => simp [hnone]
    case integer_eq => simp [hnone]
  · have hcut := cutAtSign_append hclosed hsign text
    constructor
    case text_eq => apply h
    case name_eq =>
      rw [hcut]
      exact ⟨_, rfl⟩
    case isSome_default =>
      rw [hcut, hsome]
      rfl
    case default_eq =>
      rw [hcut, hsome]
      rintro _ ⟨⟩
      exact ⟨text, htext, rfl⟩
    case integer_eq =>
      intro n hn
      rw [hsome] at hn
      cases hn
      rw [hcut]
      apply Constant.readInteger?_integerText (TypeExpr.forall_occurs_underlying hproper) htext

/-- A parameter list has one item for each parameter on its top level, from which this parameter is
read. -/
theorem topItems_listText {qualify : Bool} {ps : List Parameter} {text : String}
    (htypes : ∀ p ∈ ps, p.type.IsProper) (h : listText qualify ps = .ok text) :
  List.Forall₂ (IsReadFrom qualify) ps (topItems text)
  := by
  obtain ⟨items, hitems, h⟩ := bind_eq_ok_iff.mp h
  cases h
  have htop : ∀ item ∈ items, IsTopItem item := by
    apply (givesWithin_mapM (Q := IsTopItem) ?_).of_eq_ok items hitems
    intro p hp
    exact ⟨fun item hitem => isTopItem_of_text (htypes p hp) hitem⟩
  rw [topItems_commaList htop]
  apply ((List.forall₂_and_left _ _).mpr ⟨htypes, mapM_eq_ok_iff.mp hitems⟩).imp
  rintro p item ⟨htype, hitem⟩
  apply isReadFrom_of_text htype hitem

/-- Parameters with separators, brackets and quotes in their types and in their defaults. -/
def drawParameters : List Parameter := [
  ⟨"grid", .applied (.plain "Tools.Data" "Table`2") [.array (.plain "System" "Int32") 2,
    .parameter "in"], .value, some .zero⟩,
  ⟨"ref", .plain "System" "String", .input, some (.string "\", x = (1, [<\\")⟩,
  ⟨"mark", .plain "System" "Char", .value, some (.char '\'')⟩,
  ⟨"level", .nullable (.value "Tools" "Level"), .value, some (.integer (-3))⟩,
  ⟨"rest", .array (.plain "System" "Object") 1, .rest, none⟩]

/-- The text of `drawParameters`. -/
def drawList : String :=
  "Tools.Data.Table<int[,], @in> grid = default(Tools.Data.Table<int[,], @in>), "
    ++ "in string @ref = \"\\\", x = (1, [<\\\\\", char mark = '\\'', "
    ++ "Tools.Level? level = (Tools.Level)(-3), params object[] rest"

theorem topItems_listText_draw :
  (∀ p ∈ drawParameters, p.type.IsProper) ∧ listText true drawParameters = .ok drawList
    ∧ List.Forall₂ (IsReadFrom true) drawParameters (topItems drawList)
  := by
  have htypes : ∀ p ∈ drawParameters, p.type.IsProper := by decide +kernel
  have htext : listText true drawParameters = .ok drawList := by decide +kernel
  exact ⟨htypes, htext, topItems_listText htypes htext⟩

end Parameter

end AliasBinding
