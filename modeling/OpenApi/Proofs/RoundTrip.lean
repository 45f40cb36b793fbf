import OpenApi.Loading
import OpenApi.Proofs.DocumentLayout
import OpenApi.Proofs.JsonNodes
import OpenApi.Proofs.JsonText

/-!
# Documents are read back from their text

The text that is written for a document is read to the same document, with all its maps in their
order. The node of the text that was read is plain, the fields of the document are written as they
were read, and the text of what is written is read to the same plain node.

## Main statements

* `decodeJson_compact`: a value that was read from a text is read from the text that is
  written for it.
* `Document.ofJson_compact_toJson`: so is a document, which then is written to the same text.
-/
namespace OpenApi

section

variable {α : Type} {read : Node → Decoded α} {write : α → Json} {least : Nat}

theorem decodeJson_eq_ok_iff {text : String} {value : α} :
    decodeJson read text = .ok value ↔
      (Node.readJson jsonRoom text).2 = true
        ∧ read (Node.readJson jsonRoom text).1 = .ok value := by
  rw [decodeJson]
  rcases Node.readJson jsonRoom text with ⟨node, complete⟩
  cases hvalue : read node with
  | error fault => simp [hvalue, bind, Except.bind]
  | ok other => cases complete <;> simp [hvalue, bind, Except.bind, pure, Except.pure]

theorem decodeJson_compact (hkeeps : Keeps least read write) (hleast : least ≤ jsonRoom)
    {text : String} {value : α} (hread : decodeJson read text = .ok value)
    (hkeys : (Node.readJson jsonRoom text).1.distinctKeys = true)
    (hdoubles : ∀ x ∈ (write value).doubles, x.ReadsBack) :
    decodeJson read (write value).compact = .ok value := by
  have hkept := hkeeps hleast (Node.plain_readJson hkeys) (decodeJson_eq_ok_iff.1 hread).2
  rw [decodeJson_eq_ok_iff, Node.readJson_compact hkept.plain hdoubles]
  exact ⟨rfl, hkept.reads⟩

end

namespace Document

theorem ofJson_eq_ok_iff {text : String} {document : Document} :
    ofJson text = .ok document ↔
      decodeJson Document.read text = .ok document ∧ document.openapi.startsWith "3." = true := by
  rw [ofJson]
  cases decodeJson Document.read text with
  | error fault => simp
  | ok other =>
    simp only [checkVersion, Except.ok.injEq]
    split
    · rename_i hversion
      simp only [Except.ok.injEq]
      exact ⟨fun heq => ⟨heq, heq ▸ hversion⟩, And.left⟩
    · rename_i hversion
      constructor
      · intro h
        cases h
      · rintro ⟨rfl, h⟩
        exact absurd h hversion

/-- **A document that was read from JSON text is read back from the text that is written for it**,
if no object in the text repeats a key. What is written for it again is the same text. The binary64
numbers in the document are assumed to be read back from their digits. -/
theorem ofJson_compact_toJson {text : String} {document : Document}
    (hread : ofJson text = .ok document)
    (hkeys : (Node.readJson jsonRoom text).1.distinctKeys = true)
    (hdoubles : ∀ x ∈ document.toJson.doubles, x.ReadsBack) :
    ofJson document.toJson.compact = .ok document
      ∧ ∀ again, ofJson document.toJson.compact = .ok again →
          again.toJson.compact = document.toJson.compact := by
  obtain ⟨hdecoded, hversion⟩ := ofJson_eq_ok_iff.1 hread
  have hback : ofJson document.toJson.compact = .ok document :=
    ofJson_eq_ok_iff.2
      ⟨decodeJson_compact Document.keeps_read (by decide) hdecoded hkeys hdoubles, hversion⟩
  refine ⟨hback, fun again hagain => ?_⟩
  rw [hback] at hagain
  rw [Except.ok.inj hagain]

/-- A text with a schema whose key of a reference holds no text, and with a number that
has a point. -/
def scaleText : String :=
  "\x7b\"openapi\":\"3.0.3\",\"info\":\x7b\"title\":\"t\",\"version\":\"1\"\x7d,"
    ++ "\"components\":\x7b\"schemas\":\x7b\"Scale\":\x7b\"$ref\":3,\"minimum\":1.5\x7d\x7d\x7d\x7d"

theorem ofJson_compact_toJson_scaleText :
    (Node.readJson jsonRoom scaleText).1.distinctKeys = true ∧
      ∃ document, ofJson scaleText = .ok document ∧ (∀ x ∈ document.toJson.doubles, x.ReadsBack) ∧
        ofJson document.toJson.compact = .ok document ∧
          ∀ again, ofJson document.toJson.compact = .ok again →
            again.toJson.compact = document.toJson.compact := by
  have hkeys : (Node.readJson jsonRoom scaleText).1.distinctKeys = true := by decide +kernel
  have hnumbers : (ofJson scaleText).toOption.map (fun document => document.toJson.doubles)
      = some [.finite false 6755399441055744 (-52)] := by decide +kernel
  cases hread : ofJson scaleText with
  | error error => simp [hread, Except.toOption] at hnumbers
  | ok document =>
    have hdoubles : ∀ x ∈ document.toJson.doubles, x.ReadsBack := by
      have heq : document.toJson.doubles = [.finite false 6755399441055744 (-52)] := by
        simpa [hread, Except.toOption] using hnumbers
      rw [heq, List.forall_mem_singleton]
      rfl
    exact ⟨hkeys, document, rfl, hdoubles, ofJson_compact_toJson hread hkeys hdoubles⟩

end Document

end OpenApi
