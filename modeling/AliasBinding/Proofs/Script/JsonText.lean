import AliasBinding.Proofs.Json.Printing
import AliasBinding.Script.Format

/-!
# Scripts written as JSON

The JSON text of a script is a document with a line end behind it, and is read back to an object
with the source, the namespaces and the references as they are
(`Script.ofText_render_json`).
-/

namespace AliasBinding.Script

open Json

/-- The object that a script is written as. -/
def toJson (s : Script) : Json :=
  .object [("source", .string s.source),
    ("namespaces", .array (s.namespaces.toList.map .string)),
    ("references", .array (s.references.map .string))]

theorem toJson_injective :
  Function.Injective toJson
  := by
  have hstring : Function.Injective Json.string := fun _ _ h => Json.string.inj h
  rintro ⟨source, ⟨names, hnames⟩, references⟩ ⟨source', ⟨names', hnames'⟩, references'⟩ h
  obtain ⟨hsource, hnamespaces, hreferences⟩ : source = source'
      ∧ names.map Json.string = names'.map Json.string
      ∧ references.map Json.string = references'.map Json.string := by
    simpa [toJson] using h
  obtain rfl := hsource
  obtain rfl := hstring.list_map hnamespaces
  obtain rfl := hstring.list_map hreferences
  rfl

theorem exact_toJson (s : Script) :
  s.toJson.Exact
  := ⟨trivial, exactItems_strings _, exactItems_strings _, trivial⟩

theorem depth_toJson_le (s : Script) :
  s.toJson.depth ≤ maxDepth
  := by
  have hnamespaces := depthOfItems_strings s.namespaces.toList
  have hreferences := depthOfItems_strings s.references
  simp only [toJson, depth, depthOfMembers, maxDepth]
  omega

/-- The JSON document of a script. -/
def document (s : Script) : String :=
  printBlock "\x7b" "\x7d" 0 [
    printMember "source" (printString s.source),
    printMember "namespaces" (printStrings 1 s.namespaces.toList),
    printMember "references" (printStrings 1 s.references)]

/-- The document prints the object. -/
theorem prints_document (s : Script) (real : Float → Numeral) :
  Prints (s.toJson.lexemes real) s.document
  := by
  rw [toJson, lexemes_object]
  apply prints_printBlock
  · apply Lays.one .openBrace
  · apply Lays.one .closeBrace
  · have hsource : Prints ((Json.string s.source).lexemes real) (printString s.source) := by
      rw [lexemes]
      apply prints_printString
    apply List.Forall₂.cons (prints_printMember hsource)
    apply List.Forall₂.cons (prints_printMember (prints_printStrings real 1 _))
    apply List.Forall₂.cons (prints_printMember (prints_printStrings real 1 _))
    apply List.Forall₂.nil

theorem getLast?_document (s : Script) :
  s.document.toList.getLast? = some '\x7d'
  := by
  rw [document, printBlock_cons, String.toList_append, List.getLast?_append]
  rfl

/-- The JSON text of a script is a document with a single line feed behind it.  Both are read
back to the object with the source, the namespaces, which ascend, and the references of the
script, so no other script has this text. -/
theorem ofText_render_json (s : Script) :
  (∃ document, s.render .json = document ++ "\n" ∧ document.toList.getLast? ≠ some '\n'
      ∧ ofText document maxDepth = .ok s.toJson)
    ∧ ofText (s.render .json) maxDepth = .ok s.toJson
    ∧ s.namespaces.toList.Pairwise (· < ·)
    ∧ ∀ s' : Script, s'.render .json = s.render .json → s' = s
  := by
  have hread : ∀ t : Script, ofText (t.render .json) maxDepth = .ok t.toJson := by
    intro t
    have hprints := prints_append (t.prints_document fun _ => .ofInt 0) prints_lineEnd
    rw [List.append_nil] at hprints
    apply Lays.ofText_eq hprints t.exact_toJson t.depth_toJson_le
  refine ⟨⟨s.document, rfl, ?_, ?_⟩, hread s, s.namespaces.ascending, ?_⟩
  · rw [getLast?_document]
    nofun
  · apply Lays.ofText_eq (s.prints_document fun _ => .ofInt 0) s.exact_toJson s.depth_toJson_le
  · intro s' hrender
    have h := hread s'
    rw [hrender, hread s, Except.ok.injEq] at h
    apply toJson_injective h.symm

end AliasBinding.Script
