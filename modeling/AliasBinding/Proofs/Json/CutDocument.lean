import AliasBinding.Json.Document
import AliasBinding.Proofs.Json.CutTokens
import Mathlib.Logic.Relation

/-!
# Documents of a text that is cut

The document of a cut text is that of the whole text with a fault where the text ends
(`Node.Grows`): every further token makes it grow at its end (`Document.Cut.becomes_root`).  A
text whose root is closed goes on with nothing but spaces, or there is something behind the
root (`Document.Cut.eq_of_isClosed`).
-/

namespace AliasBinding.Json

/-! ### Growing nodes -/

namespace Node

/-- The first node grows to the second one when the text goes on; it has the fault of a text
that ends where it can grow. -/
inductive Grows : Node → Node → Prop where
  | absent (n : Node) : Grows (.absent .truncated) n
  | word (read : Except Fault Word) : Grows (.word (.error .truncated)) (.word read)
  | number : Grows (.number (.error .truncated)) (.number (.error .malformed))
  | text {read read' : Quoted} (h : read.Begins read') : Grows (.text read) (.text read')
  | endArray (items : List Node) (ending : Except Fault Unit) :
      Grows (.array items (.error .truncated)) (.array items ending)
  | nextItem (items : List Node) :
      Grows (.array items (.error .truncated))
        (.array (items ++ [.absent .truncated]) (.error .truncated))
  | item (items : List Node) {n n' : Node} (h : Grows n n') :
      Grows (.array (items ++ [n]) (.error .truncated))
        (.array (items ++ [n']) (.error .truncated))
  | endObject (members : List (Quoted × Node)) (ending : Except Fault Unit) :
      Grows (.object members (.error .truncated)) (.object members ending)
  | nextMember (members : List (Quoted × Node)) (key : Quoted) :
      Grows (.object members (.error .truncated))
        (.object (members ++ [(key, .absent .truncated)]) (.error .truncated))
  | key (members : List (Quoted × Node)) {key key' : Quoted} (h : key.Begins key') (n : Node) :
      Grows (.object (members ++ [(key, n)]) (.error .truncated))
        (.object (members ++ [(key', n)]) (.error .truncated))
  | member (members : List (Quoted × Node)) (key : Quoted) {n n' : Node} (h : Grows n n') :
      Grows (.object (members ++ [(key, n)]) (.error .truncated))
        (.object (members ++ [(key, n')]) (.error .truncated))

/-- A node grows where a value is cut, or it is a list that grows. -/
@[elab_as_elim]
theorem Grows.byKind {motive : ∀ n n' : Node, Grows n n' → Prop}
    (absent : ∀ n, motive _ _ (.absent n))
    (word : ∀ read, motive _ _ (.word read))
    (number : motive _ _ .number)
    (text : ∀ {read read' : Quoted} (h : read.Begins read'), motive _ _ (.text h))
    (array : ∀ {items items' : List Node} {ending ending' : Except Fault Unit}
      (h : Grows (.array items ending) (.array items' ending')), motive _ _ h)
    (object : ∀ {members members' : List (Quoted × Node)} {ending ending' : Except Fault Unit}
      (h : Grows (.object members ending) (.object members' ending')), motive _ _ h)
    {n n' : Node} (h : Grows n n') :
  motive n n' h
  := by
  cases h with
  | absent n => apply absent
  | word read => apply word
  | number => apply number
  | text h => apply text h
  | endArray | nextItem | item => apply array
  | endObject | nextMember | key | member => apply object

/-- The first node becomes the second one when the text goes on. -/
abbrev Becomes : Node → Node → Prop := Relation.ReflTransGen Grows

theorem Becomes.item {n n' : Node} (h : Becomes n n') (items : List Node) :
  Becomes (.array (items ++ [n]) (.error .truncated))
    (.array (items ++ [n']) (.error .truncated))
  := by
  induction h with
  | refl => apply Relation.ReflTransGen.refl
  | tail _ hstep ih => apply ih.tail (.item items hstep)

theorem Becomes.member {n n' : Node} (h : Becomes n n') (members : List (Quoted × Node))
    (key : Quoted) :
  Becomes (.object (members ++ [(key, n)]) (.error .truncated))
    (.object (members ++ [(key, n')]) (.error .truncated))
  := by
  induction h with
  | refl => apply Relation.ReflTransGen.refl
  | tail _ hstep ih => apply ih.tail (.member members key hstep)

/-- A closed array or object. -/
def IsClosed : Node → Prop
  | .array _ (.ok _) | .object _ (.ok _) => True
  | .array _ (.error _) | .object _ (.error _) | .absent _ | .word _ | .number _ | .text _ =>
    False

end Node

open Node (Becomes Grows)

/-! ### Growing documents -/

/-- A node in frames becomes what it becomes on its own, and the frames may end. -/
theorem Frame.becomes_abandon (outer : List Frame) {n n' : Node} (h : Becomes n n')
    (fault : Fault) :
  Becomes (abandon .truncated n outer) (abandon fault n' outer)
  := by
  induction outer generalizing n n' with
  | nil => apply h
  | cons frame outer ih =>
    cases frame with
    | array items =>
      rw [abandon, abandon]
      apply ih
      rw [List.reverse_cons, List.reverse_cons]
      apply (h.item items.reverse).tail
      apply Grows.endArray
    | object members key =>
      rw [abandon, abandon]
      apply ih
      rw [List.reverse_cons, List.reverse_cons]
      apply (h.member members.reverse key).tail
      apply Grows.endObject

theorem Frame.not_isClosed_abandon (outer : List Frame) {n : Node} (hn : ¬n.IsClosed)
    (fault : Fault) :
  ¬(abandon fault n outer).IsClosed
  := by
  induction outer generalizing n with
  | nil => apply hn
  | cons frame outer ih =>
    cases frame with
    | array items => apply ih id
    | object members key => apply ih id

namespace Builder

variable {b : Builder} {t t' : Token} {ts : List Token}

theorem abandon_put (fault : Fault) (n : Node) (outer : List Frame) :
  (put n outer).abandon fault = Frame.abandon fault n outer
  := by
  cases outer with
  | nil => rfl
  | cons frame outer =>
    cases frame with
    | array items => rfl
    | object members key => rfl

/-- A value becomes what it becomes on its own when it is put into its place. -/
theorem becomes_put {n n' : Node} (h : Becomes n n') (outer : List Frame) :
  Becomes (Frame.abandon .truncated n outer) ((put n' outer).abandon .truncated)
  := by
  rw [abandon_put]
  apply Frame.becomes_abandon outer h

/-- What is left at the end of the text becomes what is left at any fault. -/
theorem becomes_abandon (b : Builder) (fault : Fault) :
  Becomes (b.abandon .truncated) (b.abandon fault)
  := by
  cases b with
  | value outer => apply Frame.becomes_abandon outer (.single (.absent _))
  | firstItem outer => apply Frame.becomes_abandon outer (.single (.endArray _ _))
  | afterItem items outer => apply Frame.becomes_abandon outer (.single (.endArray _ _))
  | firstKey outer => apply Frame.becomes_abandon outer (.single (.endObject _ _))
  | nextKey members outer => apply Frame.becomes_abandon outer (.single (.endObject _ _))
  | afterMember members outer => apply Frame.becomes_abandon outer (.single (.endObject _ _))
  | colon members key outer =>
    apply Frame.becomes_abandon outer
    rw [List.reverse_cons, List.reverse_cons]
    apply (Relation.ReflTransGen.single (Grows.member _ key (.absent _))).tail
    apply Grows.endObject
  | finished root extra => apply Relation.ReflTransGen.refl

theorem becomes_openValue (outer : List Frame) (t : Token) :
  Becomes (Frame.abandon .truncated (.absent .truncated) outer)
    ((openValue outer t).abandon .truncated)
  := by
  have habsent (n : Node) : Becomes (.absent .truncated) n := .single (.absent n)
  cases t with
  | openBrace => apply Frame.becomes_abandon outer (habsent _)
  | openBracket => apply Frame.becomes_abandon outer (habsent _)
  | word read => apply becomes_put (habsent _)
  | number read => apply becomes_put (habsent _)
  | text read => apply becomes_put (habsent _)
  | closeBrace | closeBracket | comma | colon | stray =>
    apply Frame.becomes_abandon outer (habsent _)

/-- A further token makes the document grow. -/
theorem becomes_step (b : Builder) (t : Token) :
  Becomes (b.abandon .truncated) ((b.step t).abandon .truncated)
  := by
  cases b with
  | value outer => apply becomes_openValue
  | firstItem outer =>
    have hopen : Becomes ((firstItem outer).abandon .truncated)
        ((openValue (.array [] :: outer) t).abandon .truncated) :=
      (Frame.becomes_abandon outer (.single (.nextItem [])) .truncated).trans
        (becomes_openValue (.array [] :: outer) t)
    cases t with
    | closeBracket => apply becomes_put (.single (.endArray _ _))
    | openBrace | closeBrace | openBracket | comma | colon | word | number | text | stray =>
      apply hopen
  | afterItem items outer =>
    cases t with
    | closeBracket => apply becomes_put (.single (.endArray _ _))
    | comma =>
      have hnext := Frame.becomes_abandon outer (.single (.nextItem items.reverse)) .truncated
      rw [← List.reverse_cons] at hnext
      apply hnext
    | openBrace | closeBrace | openBracket | colon | word | number | text | stray =>
      apply becomes_abandon (afterItem items outer)
  | firstKey outer =>
    cases t with
    | closeBrace => apply becomes_put (.single (.endObject _ _))
    | text key => apply Frame.becomes_abandon outer (.single (.nextMember [] key))
    | openBrace | openBracket | closeBracket | comma | colon | word | number | stray =>
      apply becomes_abandon (firstKey outer)
  | nextKey members outer =>
    cases t with
    | text key =>
      have hnext :=
        Frame.becomes_abandon outer (.single (.nextMember members.reverse key)) .truncated
      rw [← List.reverse_cons] at hnext
      apply hnext
    | openBrace | closeBrace | openBracket | closeBracket | comma | colon | word | number
    | stray =>
      apply becomes_abandon (nextKey members outer)
  | colon members key outer =>
    cases t with
    | colon => apply Relation.ReflTransGen.refl
    | openBrace | closeBrace | openBracket | closeBracket | comma | word | number | text
    | stray =>
      apply becomes_abandon (colon members key outer)
  | afterMember members outer =>
    cases t with
    | closeBrace => apply becomes_put (.single (.endObject _ _))
    | comma => apply Relation.ReflTransGen.refl
    | openBrace | openBracket | closeBracket | colon | word | number | text | stray =>
      apply becomes_abandon (afterMember members outer)
  | finished root extra => apply Relation.ReflTransGen.refl

theorem becomes_foldl (b : Builder) (ts : List Token) :
  Becomes (b.abandon .truncated) ((ts.foldl step b).abandon .truncated)
  := by
  induction ts generalizing b with
  | nil => apply Relation.ReflTransGen.refl
  | cons t ts ih => apply (becomes_step b t).trans (ih (b.step t))

/-- A token that begins another one makes a document that becomes that of the other one. -/
theorem becomes_step_of_begins (b : Builder) (h : t.Begins t') :
  Becomes ((b.step t).abandon .truncated) ((b.step t').abandon .truncated)
  := by
  have hput {n n' : Node} (hgrows : Grows n n') (outer : List Frame) :
      Becomes ((put n outer).abandon .truncated) ((put n' outer).abandon .truncated) := by
    rw [abandon_put]
    apply becomes_put (.single hgrows)
  cases h with
  | same => apply Relation.ReflTransGen.refl
  | word read =>
    cases b with
    | value outer => apply hput (.word read)
    | firstItem outer => apply hput (.word read) (.array [] :: outer)
    | afterItem | firstKey | nextKey | colon | afterMember | finished =>
      apply Relation.ReflTransGen.refl
  | number =>
    cases b with
    | value outer => apply hput .number
    | firstItem outer => apply hput .number (.array [] :: outer)
    | afterItem | firstKey | nextKey | colon | afterMember | finished =>
      apply Relation.ReflTransGen.refl
  | text hread =>
    have hkey (members : List (Quoted × Node)) (outer : List Frame) :=
      Frame.becomes_abandon outer
        (.single (.key members.reverse hread (.absent .truncated))) .truncated
    simp only [← List.reverse_cons] at hkey
    cases b with
    | value outer => apply hput (.text hread)
    | firstItem outer => apply hput (.text hread) (.array [] :: outer)
    | firstKey outer => apply hkey []
    | nextKey members outer => apply hkey members
    | afterItem | colon | afterMember | finished => apply Relation.ReflTransGen.refl

/-! ### The end of the root -/

/-- Whether the root is complete, so that a further token is one too many. -/
def isFinished : Builder → Bool
  | .finished _ _ => true
  | .value _ | .firstItem _ | .afterItem _ _ | .firstKey _ | .nextKey _ _ | .colon _ _ _
  | .afterMember _ _ => false

theorem root_finish (b : Builder) :
  b.finish.root = b.abandon .truncated
  := by
  cases b with
  | value | firstItem | afterItem | firstKey | nextKey | colon | afterMember | finished => rfl

theorem extra_finish_put (n : Node) (outer : List Frame) :
  (put n outer).finish.extra = false
  := by
  cases outer with
  | nil => rfl
  | cons frame outer =>
    cases frame with
    | array items => rfl
    | object members key => rfl

/-- A token is one too many if the root was complete before it. -/
theorem extra_step (b : Builder) (t : Token) :
  (b.step t).finish.extra = b.isFinished
  := by
  cases b with
  | value outer | firstItem outer =>
    cases t with
    | word | number | text | closeBracket =>
      first
        | apply extra_finish_put
        | rfl
    | openBrace | closeBrace | openBracket | comma | colon | stray => rfl
  | afterItem items outer | firstKey outer | nextKey members outer | colon members key outer
  | afterMember members outer =>
    cases t with
    | closeBrace | closeBracket =>
      first
        | apply extra_finish_put
        | rfl
    | openBrace | openBracket | comma | colon | word | number | text | stray => rfl
  | finished root extra => rfl

/-- Once a token was one too many, the tokens behind it do not change that. -/
theorem extra_foldl (h : (ts.foldl step b).finish.extra = false) :
  b.finish.extra = false
  := by
  induction ts generalizing b with
  | nil => apply h
  | cons t ts ih =>
    have hfinished := ih h
    rw [extra_step] at hfinished
    cases b with
    | value | firstItem | afterItem | firstKey | nextKey | colon | afterMember => rfl
    | finished root extra => cases hfinished

/-- A root that is complete, with nothing behind it, has no tokens behind it. -/
theorem eq_nil_of_isFinished (hb : b.isFinished = true)
    (h : (ts.foldl step b).finish.extra = false) :
  ts = []
  := by
  cases ts with
  | nil => rfl
  | cons t ts =>
    have hfinished : (b.step t).finish.extra = false := extra_foldl h
    rw [extra_step, hb] at hfinished
    cases hfinished

theorem not_isClosed_abandon (hb : b.isFinished = false) (fault : Fault) :
  ¬(b.abandon fault).IsClosed
  := by
  cases b with
  | value outer => apply Frame.not_isClosed_abandon outer id
  | firstItem outer => apply Frame.not_isClosed_abandon outer id
  | afterItem items outer => apply Frame.not_isClosed_abandon outer id
  | firstKey outer => apply Frame.not_isClosed_abandon outer id
  | nextKey members outer => apply Frame.not_isClosed_abandon outer id
  | colon members key outer => apply Frame.not_isClosed_abandon outer id
  | afterMember members outer => apply Frame.not_isClosed_abandon outer id
  | finished root extra => cases hb

/-- Only a closing token closes the root. -/
theorem not_isClosed_step (hb : b.isFinished = false) (ht : t.closes = false) :
  ¬((b.step t).abandon .truncated).IsClosed
  := by
  have hput {n : Node} (hn : ¬n.IsClosed) (outer : List Frame) :
      ¬((put n outer).abandon .truncated).IsClosed := by
    rw [abandon_put]
    apply Frame.not_isClosed_abandon outer hn
  have hreject : ¬(b.abandon .malformed).IsClosed := not_isClosed_abandon hb .malformed
  cases b with
  | value outer =>
    cases t with
    | openBrace | openBracket => apply Frame.not_isClosed_abandon outer id
    | word | number | text => apply hput id
    | closeBrace | closeBracket => cases ht
    | comma | colon | stray => apply hreject
  | firstItem outer =>
    cases t with
    | openBrace | openBracket => apply Frame.not_isClosed_abandon (.array [] :: outer) id
    | word | number | text => apply hput id (.array [] :: outer)
    | closeBrace | closeBracket => cases ht
    | comma | colon | stray => apply Frame.not_isClosed_abandon (.array [] :: outer) id
  | afterItem items outer =>
    cases t with
    | comma => apply Frame.not_isClosed_abandon (.array items :: outer) id
    | closeBrace | closeBracket => cases ht
    | openBrace | openBracket | colon | word | number | text | stray => apply hreject
  | firstKey outer =>
    cases t with
    | text key => apply not_isClosed_abandon (b := .colon [] key outer) rfl
    | closeBrace | closeBracket => cases ht
    | openBrace | openBracket | comma | colon | word | number | stray => apply hreject
  | nextKey members outer =>
    cases t with
    | text key => apply not_isClosed_abandon (b := .colon members key outer) rfl
    | closeBrace | closeBracket => cases ht
    | openBrace | openBracket | comma | colon | word | number | stray => apply hreject
  | colon members key outer =>
    cases t with
    | colon => apply not_isClosed_abandon (b := .value (.object members key :: outer)) rfl
    | closeBrace | closeBracket => cases ht
    | openBrace | openBracket | comma | word | number | text | stray => apply hreject
  | afterMember members outer =>
    cases t with
    | comma => apply not_isClosed_abandon (b := .nextKey members outer) rfl
    | closeBrace | closeBracket => cases ht
    | openBrace | openBracket | colon | word | number | text | stray => apply hreject
  | finished root extra => cases hb

end Builder

/-! ### Cut texts -/

namespace Document

/-- The document of the text `p` and that of `p` with `q` behind it. -/
inductive Cut (p q : String) : Document → Document → Prop where
  /-- The cut is between tokens. -/
  | between (b : Builder) (ts : List Token)
      (hspaces : ts = [] → ∀ c ∈ q.toList, Scan.isSpace c = true) :
      Cut p q b.finish (ts.foldl Builder.step b).finish
  /-- The cut is inside a token or behind a broken one. -/
  | inside (b : Builder) {t t' : Token} (ts : List Token) (hcloses : t.closes = false)
      (hbegins : ¬SplitsNumber p q → t.Begins t') :
      Cut p q (b.step t).finish (ts.foldl Builder.step (b.step t')).finish

theorem cut_ofText (p q : String) :
  Cut p q (ofText p) (ofText (p ++ q))
  := by
  have hstands := Scan.stands_foldl p.toList (s := Scan.start) (.inl rfl)
  have hwhole : tokens (p ++ q).toList
      = (q.toList.foldl Scan.step (p.toList.foldl Scan.step Scan.start)).finish := by
    rw [tokens, String.toList_append, List.foldl_append]
  have hsplits : SplitsNumber p q
      = Scan.GoesOn (p.toList.foldl Scan.step Scan.start).pending q.toList := rfl
  rw [ofText, ofText, ofTokens, ofTokens, hwhole, tokens]
  generalize p.toList.foldl Scan.step Scan.start = s at hstands hsplits ⊢
  obtain ⟨held, pending⟩ := s
  rw [Scan.finish_eq, Scan.finish_foldl, List.foldl_append, List.foldl_append]
  obtain hbetween | hopen | ⟨hhalted, t, ts, htokens, ht⟩ := hstands
  · subst hbetween
    apply Cut.between _ _ Scan.isSpace_of_rest_eq_nil
  · obtain ⟨t, t', ts, hcut, hcloses, hrest, hbegins⟩ := Scan.begins_rest hopen q.toList
    rw [hcut, hrest, List.foldl_cons]
    rw [← hsplits] at hbegins
    apply Cut.inside _ ts hcloses hbegins
  · subst hhalted
    subst htokens
    rw [Scan.rest_halted, Scan.rest_halted, List.reverse_cons, List.foldl_append]
    apply Cut.inside _ [] ht fun _ => .same t

variable {p q : String} {d d' : Document}

/-- The root of a cut text becomes that of the whole text. -/
theorem Cut.becomes_root (h : Cut p q d d') (hsplits : ¬SplitsNumber p q) :
  Becomes d.root d'.root
  := by
  cases h with
  | between b ts hspaces =>
    rw [Builder.root_finish, Builder.root_finish]
    apply Builder.becomes_foldl
  | inside b ts hcloses hbegins =>
    rw [Builder.root_finish, Builder.root_finish]
    apply (Builder.becomes_step_of_begins b (hbegins hsplits)).trans
    apply Builder.becomes_foldl

/-- A text whose root is closed goes on with nothing but spaces, or there is something behind
the root. -/
theorem Cut.eq_of_isClosed (h : Cut p q d d') (hroot : d.root.IsClosed)
    (hextra : d'.extra = false) :
  d' = d ∧ ∀ c ∈ q.toList, Scan.isSpace c = true
  := by
  cases h with
  | between b ts hspaces =>
    cases hb : b.isFinished with
    | true =>
      have hts := Builder.eq_nil_of_isFinished hb hextra
      subst hts
      exact ⟨rfl, hspaces rfl⟩
    | false =>
      rw [Builder.root_finish] at hroot
      exact absurd hroot (Builder.not_isClosed_abandon hb .truncated)
  | inside b ts hcloses hbegins =>
    have hb := Builder.extra_foldl hextra
    rw [Builder.extra_step] at hb
    rw [Builder.root_finish] at hroot
    exact absurd hroot (Builder.not_isClosed_step hb hcloses)

/-- The end of a document is right when nothing follows the root. -/
theorem afterRoot_eq_ok_iff :
  d.afterRoot = .ok () ↔ d.extra = false
  := by
  rw [afterRoot]
  cases d.extra with
  | false => simp
  | true => simp

end Document

end AliasBinding.Json
