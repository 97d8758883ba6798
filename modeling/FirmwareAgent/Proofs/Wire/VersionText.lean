import FirmwareAgent.Proofs.Text.Utf8
import FirmwareAgent.Proofs.Wire.Inverse

/-!
# Version texts on the wire

A text travels as the bytes of its UTF-8 form, and its length is counted in these bytes. The reader
of a version is shown the text of its bytes, so a text that fits is shown as it was.

* `versionText_throughWire`: every text of at most 255 bytes comes through each of the three
  requests that carry a version, whatever their other fields are. A longer text is refused by all of
  them.
-/

namespace FirmwareAgent

namespace VersionString

theorem text_ofText (text : String) : (ofText text).text = text :=
  decodeUtf8_utf8Bytes text

theorem type_ofText_eq_ascii {text : String} :
    (ofText text).type = .ascii ↔ ∀ byte ∈ utf8Bytes text, byte < 0x80 := by
  simp only [ofText]
  split <;> simp_all

theorem type_ofText_eq_utf8 {text : String} :
    (ofText text).type = .utf8 ↔ ∃ byte ∈ utf8Bytes text, 0x80 ≤ byte := by
  simp only [ofText]
  split <;> simp_all

end VersionString

namespace Body

variable {α : Type} [Body α]

/-- A body brings the text of its version to its reader. -/
structure BringsText (α : Type) [Body α] (version : α → VersionString) : Prop where
  /-- A text of at most 255 bytes is written, read, and shown as it was. -/
  shown : ∀ (text : String) (body : α), version body = .ofText text →
    (utf8Bytes text).length ≤ 255 →
    ∃ bytes again, encode body = .ok bytes ∧ decode α bytes = .ok again ∧
      (version again).text = text ∧ (version again).type = (VersionString.ofText text).type
  /-- A longer one is not written. -/
  refused : ∀ (text : String) (body : α), version body = .ofText text →
    255 < (utf8Bytes text).length →
    encode body = .error (.fieldOverflow "version string length" (utf8Bytes text).length)

theorem Inverse.bringsText {version : α → VersionString} {normalise : Bytes → Bytes}
    (inverse : Inverse α (fun body => some (version body)) normalise) : BringsText α version where
  shown text body carried short := by
    have fits : ∀ carriedVersion ∈ some (version body), carriedVersion.bytes.length ≤ 255 := by
      rintro _ ⟨⟩
      rw [carried]
      exact short
    obtain ⟨bytes, written, read⟩ := inverse.written body fits
    refine ⟨bytes, body, written, read, ?_, congrArg VersionString.type carried⟩
    rw [carried, VersionString.text_ofText]
  refused text body carried long := by
    have tooLong := inverse.tooLong body (version body) rfl
    rw [carried] at tooLong
    exact tooLong long

end Body

/-- A text is tagged ASCII if all its bytes are below `0x80` and UTF-8 otherwise. With at most 255
bytes it comes through each of the requests that carry a version, with its tag; with more it is
refused by each of them. -/
theorem versionText_throughWire :
    (∀ text : String,
      ((VersionString.ofText text).type = .ascii ↔ ∀ byte ∈ utf8Bytes text, byte < 0x80) ∧
      ((VersionString.ofText text).type = .utf8 ↔ ∃ byte ∈ utf8Bytes text, 0x80 ≤ byte)) ∧
    Body.BringsText RequestUpdateRequest (·.imageSetVersion) ∧
    Body.BringsText PassComponentTableRequest (·.version) ∧
    Body.BringsText UpdateComponentRequest (·.version) := by
  refine ⟨fun text => ⟨VersionString.type_ofText_eq_ascii, VersionString.type_ofText_eq_utf8⟩,
    ?_, ?_, ?_⟩
  · exact (Body.Inverse.versioned fun _ => rfl).bringsText
  · exact (Body.Inverse.versioned fun _ => rfl).bringsText
  · exact (Body.Inverse.versioned fun _ => rfl).bringsText

/-- A text with characters of one, two, three and four bytes, in an entry of the component table. -/
theorem versionText_throughWire_allWidths :
    (utf8Bytes "1ü€😀").length ≤ 255 ∧
    ∃ (bytes : Bytes) (again : PassComponentTableRequest),
      Body.encode (⟨.startAndEnd, ⟨10, 1, 0, 2⟩, .ofText "1ü€😀"⟩ : PassComponentTableRequest) =
        .ok bytes ∧
      Body.decode PassComponentTableRequest bytes = .ok again ∧
      again.version.text = "1ü€😀" ∧ again.version.type = (VersionString.ofText "1ü€😀").type := by
  have short : (utf8Bytes "1ü€😀").length ≤ 255 := by decide
  exact ⟨short, versionText_throughWire.2.2.1.shown _ _ rfl short⟩

end FirmwareAgent
