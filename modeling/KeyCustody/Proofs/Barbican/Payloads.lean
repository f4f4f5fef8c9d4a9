import KeyCustody.Proofs.Barbican.Replies
import KeyCustody.Proofs.Text.Base64

/-!
# Payloads

Material that comes back from Barbican is read from the bytes of an answer, as raw bytes or as text. Either way the bytes
can be told from what is read.
-/

namespace KeyCustody.Barbican

open Http Rest Text

variable {m : Type → Type} {body other : List UInt8} {material : String}

theorem getPayloadReply_bytes (body : List UInt8) :
    getPayloadReply .bytes ⟨200, some body⟩ = .ok ⟨Base64.encode body⟩ :=
  rfl

theorem getPayloadReply_bytes_inj :
    getPayloadReply .bytes ⟨200, some other⟩ = getPayloadReply .bytes ⟨200, some body⟩ ↔ other = body := by
  refine ⟨fun alike => ?_, fun same => same ▸ rfl⟩
  rw [getPayloadReply_bytes, getPayloadReply_bytes, Except.ok.injEq, Sealed.mk.injEq] at alike
  have back := Base64.decode?_encode other
  rw [alike, Base64.decode?_encode] at back
  exact (Option.some.inj back).symm

theorem getPayloadReply_text_ok_iff :
    getPayloadReply .text ⟨200, some body⟩ = .ok ⟨material⟩ ↔ Utf8.encode material.toList = body := by
  have read : Material body .text (getPayloadReply .text ⟨200, some body⟩) := material_payloadOf body .text
  constructor
  · intro answered
    rw [answered] at read
    obtain ⟨text, own, same⟩ | ⟨-, same⟩ := read
    · cases same
      exact own.symm
    · cases same
  · rintro rfl
    obtain ⟨text, own, answered⟩ | ⟨unsound, -⟩ := read
    · have back := Utf8.decode?_eq_some.2 own
      rw [Utf8.decode?_encode, String.ofList_toList] at back
      rw [answered, Option.some.inj back]
    · exact absurd ⟨material, rfl⟩ unsound

theorem getPayloadReply_text_answered_iff :
    (∃ material, getPayloadReply .text ⟨200, some body⟩ = .ok material) ↔ Utf8.WellFormed body := by
  rw [Utf8.wellFormed_iff]
  constructor
  · rintro ⟨⟨material⟩, answered⟩
    exact ⟨material.toList, getPayloadReply_text_ok_iff.1 answered⟩
  · rintro ⟨cs, own⟩
    exact ⟨⟨String.ofList cs⟩, getPayloadReply_text_ok_iff.2 (by rw [String.toList_ofList, own])⟩

/-- Two bytes that would spell the slash in more bytes than it needs are no text. -/
example : (getPayloadReply .text ⟨200, some [0xC0, 0xAF]⟩).toOption = none := by decide +kernel

end KeyCustody.Barbican
