import BrokerWiring.Message.Converter
import BrokerWiring.Proofs.Text.WellFormed

/-!
# Texts survive the text converter

The text converter sends strings as UTF-8 and nothing else, and it receives the bodies that are
UTF-8 and no others. On these the two ways undo each other (`keepsTexts_text`): a string is found
again in its message, and a body is sent again as it was, whatever content type it came with.
-/

namespace BrokerWiring.MessageConverter

open Outcome (FailsOnly)

/-- A payload cannot be converted. -/
def IsConversion (error : BrokerError) : Prop := ∃ text, error = .conversion text

/-- A converter takes strings for payloads and UTF-8 for bodies, and loses neither. -/
structure KeepsTexts (converter : MessageConverter) : Prop where
  /-- The payloads that have a message are the strings. -/
  sends_iff : ∀ payload, (∃ message, converter.toMessage payload = .ok message) ↔
    ∃ s, payload = .string s
  /-- The body of the message is the string in UTF-8. -/
  spelled : ∀ s message, converter.toMessage (.string s) = .ok message →
    message.body = Utf8.encodeText s
  /-- What was sent is found in its message. -/
  found : ∀ payload message, converter.toMessage payload = .ok message →
    converter.ofMessage message = .ok payload
  /-- The messages that have a payload are those with a well-formed body, of any content type. -/
  receives_iff : ∀ message, (∃ payload, converter.ofMessage message = .ok payload) ↔
    Utf8.WellFormed message.body
  /-- What was received is sent with the body that it came in. -/
  returned : ∀ message payload, converter.ofMessage message = .ok payload →
    ∃ answer, converter.toMessage payload = .ok answer ∧ answer.body = message.body
  /-- Everything else fails as a conversion, on the way out and on the way in. -/
  failsOnly : (∀ payload, FailsOnly IsConversion (converter.toMessage payload)) ∧
    ∀ message, FailsOnly IsConversion (converter.ofMessage message)

variable {payload : Json} {message : Message}

theorem textMessage_eq_ok_iff : textMessage payload = .ok message ↔
    ∃ s, payload = .string s ∧ message = ⟨Utf8.encodeText s, plainText⟩ := by
  cases payload with
  | string s => simp [textMessage, eq_comm]
  | _ => simp [textMessage]

theorem textPayload_eq_ok_iff : textPayload message = .ok payload ↔
    ∃ s, Utf8.decodeText message.body = .ok s ∧ payload = .string s := by
  rw [textPayload]
  cases Utf8.decodeText message.body with
  | ok s => simp [eq_comm]
  | error fault => simp

theorem keepsTexts_text : KeepsTexts text where
  sends_iff payload := by
    constructor
    · rintro ⟨message, h⟩
      obtain ⟨s, hs, -⟩ := textMessage_eq_ok_iff.mp h
      exact ⟨s, hs⟩
    · rintro ⟨s, hs⟩
      exact ⟨_, textMessage_eq_ok_iff.mpr ⟨s, hs, rfl⟩⟩
  spelled s message h := by
    obtain rfl := Except.ok.inj h
    rfl
  found payload message h := by
    obtain ⟨s, rfl, rfl⟩ := textMessage_eq_ok_iff.mp h
    exact textPayload_eq_ok_iff.mpr ⟨s, Utf8.decodeText_eq_ok_iff.mpr rfl, rfl⟩
  receives_iff message := by
    rw [← Utf8.exists_decodeText_iff]
    constructor
    · rintro ⟨payload, h⟩
      obtain ⟨s, hread, -⟩ := textPayload_eq_ok_iff.mp h
      exact ⟨s, hread⟩
    · rintro ⟨s, hread⟩
      exact ⟨.string s, textPayload_eq_ok_iff.mpr ⟨s, hread, rfl⟩⟩
  returned message payload h := by
    obtain ⟨s, hread, rfl⟩ := textPayload_eq_ok_iff.mp h
    exact ⟨_, textMessage_eq_ok_iff.mpr ⟨s, rfl, rfl⟩, Utf8.decodeText_eq_ok_iff.mp hread⟩
  failsOnly := by
    constructor
    · intro payload
      cases payload with
      | string s => exact .ok _
      | _ => exact .error ⟨_, rfl⟩
    · intro message
      show FailsOnly IsConversion (textPayload message)
      unfold textPayload
      split
      · exact .ok _
      · exact .error ⟨_, rfl⟩

end BrokerWiring.MessageConverter
